import TelAF.BigEndian
import TelAF.Probes
import TelAF.UdsDiagIndication

/-!
# The request in the reception buffer

A request that was taken stands at the front of the reception buffer, in front of what
earlier requests left there. Inside the received length, the bytes, the 16-bit numbers and
the slices that a handler reads are those of the request.
-/

namespace TelAF.RequestBytes

open UdsState UdsDiagIndication BigEndian Probes List

theorem recv16_toNat (m : UdsManager) (i : Nat) :
    (m.recv16 i).toNat = (m.recv i).toNat * 256 + (m.recv (i + 1)).toNat := by
  have hhigh := (m.recv i).toNat_lt
  have hlow := (m.recv (i + 1)).toNat_lt
  exact Nat.mod_eq_of_lt (by omega)

/-- Read two neighbouring bytes in network order. -/
def read16 (i : Nat) : Probe UInt8 Nat :=
  .read i fun high => .read (i + 1) fun low => .done (high.toNat * 256 + low.toNat)

theorem run_read16_recv (m : UdsManager) (i : Nat) : (read16 i).run m.recv = (m.recv16 i).toNat :=
  (recv16_toNat m i).symm

variable {cells : Nat → UInt8} {i : Nat}

theorem within_read16 {bound : Nat} (h : i + 2 ≤ bound) : (read16 i).Within cells bound := by
  apply Probe.within_read (by omega)
  apply Probe.within_read (by omega)
  exact Probe.within_done _

variable (m : UdsManager) (addr : AddrInfo) {data : List UInt8}

theorem recv16_word (hmax : data.length ≤ udsMaxDataSize) (hi : i + 2 ≤ data.length) :
    ((m.takeRequest addr data).recv16 i).toNat = word data i := by
  rw [recv16_toNat, takeRequest_recv m addr data (by omega) (by omega),
    takeRequest_recv m addr data (by omega) (by omega), word_eq data hi]

/-- A memory that holds a message at its front. -/
def Holds (cells : Nat → UInt8) (data : List UInt8) : Prop :=
  ∀ i < data.length, cells i = data.getD i 0

theorem holds_takeRequest (hmax : data.length ≤ udsMaxDataSize) :
    Holds (m.takeRequest addr data).recv data := by
  intro i hi
  exact takeRequest_recv m addr data hi (by omega)

theorem Holds.slice (hcell : Holds cells data) {start k : Nat} (h : start + k ≤ data.length) :
    ((range k).map fun i => cells (start + i)) = (data.drop start).take k := by
  apply ext_getElem
  · rw [length_map, length_range, length_take, length_drop]
    omega
  intro i hi _
  rw [length_map, length_range] at hi
  rw [getElem_map, getElem_range, getElem_take, getElem_drop,
    hcell _ (by omega), getD_eq_getElem?_getD, getElem?_eq_getElem (by omega)]
  rfl

theorem Holds.read16 (hcell : Holds cells data)
    (h : i + 2 ≤ data.length) : (read16 i).run cells = word data i := by
  have hrun : (RequestBytes.read16 i).run cells = (cells i).toNat * 256 + (cells (i + 1)).toNat := rfl
  rw [hrun, hcell i (by omega), hcell (i + 1) (by omega), word_eq data h]

/-- Neighbouring bytes of the buffer are a slice of the request. -/
theorem recv_slice (hmax : data.length ≤ udsMaxDataSize) {start k : Nat}
    (h : start + k ≤ data.length) :
    ((range k).map fun i => (m.takeRequest addr data).recv (start + i)) =
      (data.drop start).take k :=
  (holds_takeRequest m addr hmax).slice h

theorem recv_behind (hmax : data.length ≤ udsMaxDataSize) (hi : data.length ≤ i) :
    (m.takeRequest addr data).recv i = m.recv i := by
  have htake : data.take udsMaxDataSize = data := take_of_length_le hmax
  simp only [UdsManager.recv, UdsManager.takeRequest, htake, getD_eq_getElem?_getD]
  rw [getElem?_append_right hi, getElem?_drop]
  congr 2
  omega

/-- A tester and the server by their logical addresses. -/
def testerAddr : AddrInfo := ⟨0x0E80, 0x1000, .physical⟩

end TelAF.RequestBytes
