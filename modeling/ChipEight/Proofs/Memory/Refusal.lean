import ChipEight.Proofs.Memory.History
import ChipEight.Proofs.Outcome
import Mathlib.Data.Nat.Find

/-!
# Loads that are refused

A load goes up from its first address, byte by byte, to the first byte that is not accepted. What
comes before that byte is stored, nothing else is touched, and the fault names its address: there is
no cell, or the cell is reserved.

Since a load only goes up, it leaves the reserved cells behind it and never enters them, so this
fault befalls its first byte or none. And since it stops where the cells end, it is never asked for
an address of more than sixteen bits.
-/

namespace ChipEight.Memory

variable {m : Memory} {a k : Nat} {bytes : List UInt8}

/-! ### Bytes that are all accepted -/

theorem keep_eq_put (m : Memory) (b : UInt8) (ha : a < 4096) : m.keep (b, a) = m.put ⟨a, ha⟩ b :=
  dif_pos ha

theorem loadFrom_of_accepts (h : ∀ k < bytes.length, m.policy.accepts m.programStart (a + k)) :
    (AddressSpace.loadFrom (.ok a m) bytes).result = .ok (a + bytes.length) ∧
      (AddressSpace.loadFrom (.ok a m) bytes).state = m.filled a bytes := by
  induction bytes generalizing m a with
  | nil => simp [Outcome.ok]
  | cons b bytes ih =>
    have haccepts : m.accepts (b, a) = true := h 0 (Nat.succ_pos _)
    have ha : a < 4096 := lt_of_accepts haccepts
    have hrest : ∀ k < bytes.length, (m.put ⟨a, ha⟩ b).policy.accepts
        (m.put ⟨a, ha⟩ b).programStart (a + 1 + k) := by
      intro k hk
      rw [Nat.add_assoc, Nat.add_comm 1]
      exact h (k + 1) (Nat.succ_lt_succ hk)
    obtain ⟨hresult, hstate⟩ := loadByte_of_accepts haccepts
    rw [keep_eq_put m b ha] at hstate
    obtain ⟨hresult, hstate'⟩ := Outcome.andThen_of_result_eq_ok hresult
      fun a m => AddressSpace.loadFrom (.ok a m) bytes
    obtain ⟨hend, hfilled⟩ := ih hrest
    rw [AddressSpace.loadFrom_cons, Outcome.ok_andThen, AddressSpace.loadFrom_eq_andThen, hresult,
      hstate', hstate, hend, hfilled, filled_put m ⟨a, ha⟩, List.length_cons, Nat.add_assoc,
      Nat.add_comm 1]
    exact ⟨rfl, rfl⟩

theorem forall_accepts_take (h : ∀ j < k, m.policy.accepts m.programStart (a + j)) :
    ∀ j < (bytes.take k).length, m.policy.accepts m.programStart (a + j) :=
  fun j hj => h j (hj.trans_le (List.length_take_le k bytes))

/-! ### The first byte that is not -/

theorem forall_or_exists_first (P : Nat → Prop) (n : Nat) :
    (∀ k < n, P k) ∨ ∃ k < n, ¬ P k ∧ ∀ j < k, P j := by
  classical
  by_cases h : ∃ k, k < n ∧ ¬ P k
  · right
    obtain ⟨hlt, hk⟩ := Nat.find_spec h
    refine ⟨Nat.find h, hlt, hk, fun j hj => ?_⟩
    by_contra hnot
    exact Nat.find_min h hj ⟨hj.trans hlt, hnot⟩
  · left
    intro k hk
    by_contra hnot
    exact h ⟨k, hk, hnot⟩

/-- Behind an accepted cell there is at most the end of memory. -/
theorem lt_of_forall_accepts {start : UInt16} {policy : WritePolicy} (ha : a < 0x10000)
    (h : ∀ j < k, policy.accepts start (a + j)) : a + k < 0x10000 := by
  cases k with
  | zero => exact ha
  | succ j =>
    have hj := lt_of_accepts (h j (Nat.lt_succ_self j))
    omega

/-- The first address that is refused is the fault, and the bytes before it are stored. -/
theorem loadFrom_of_not_accepts (ha : a < 0x10000) (hk : k < bytes.length)
    (hrefused : ¬ m.policy.accepts m.programStart (a + k))
    (h : ∀ j < k, m.policy.accepts m.programStart (a + j)) :
    (AddressSpace.loadFrom (.ok a m) bytes).result =
        .error (if a + k < 4096 then .reserved (UInt16.ofNat (a + k))
          else .outOfBounds (UInt16.ofNat (a + k))) ∧
      (AddressSpace.loadFrom (.ok a m) bytes).state = m.filled a (bytes.take k) := by
  have hsplit : AddressSpace.loadFrom (.ok a m) bytes =
      (AddressSpace.loadFrom (.ok a m) (bytes.take k)).andThen
        fun a m => AddressSpace.loadFrom (.ok a m) (bytes.drop k) := by
    rw [← AddressSpace.loadFrom_eq_andThen, ← loadFrom_append, List.take_append_drop]
  have hprefix : ∀ j < (bytes.take k).length, m.policy.accepts m.programStart (a + j) :=
    forall_accepts_take h
  obtain ⟨hresult, hstate⟩ := loadFrom_of_accepts hprefix
  rw [List.length_take, Nat.min_eq_left hk.le] at hresult
  obtain ⟨hresult, hstate'⟩ := Outcome.andThen_of_result_eq_ok hresult
    fun a m => AddressSpace.loadFrom (.ok a m) (bytes.drop k)
  have hbyte : (m.filled a (bytes.take k)).accepts (bytes[k], a + k) = false :=
    Bool.eq_false_iff.2 hrefused
  have hfail := loadByte_eq_fail (lt_of_forall_accepts ha h) hbyte
  rw [hsplit, hresult, hstate', hstate, List.drop_eq_getElem_cons hk, AddressSpace.loadFrom_cons,
    Outcome.ok_andThen, hfail, loadFrom_fail]
  exact ⟨rfl, rfl⟩

/-- Each byte is loaded to an address of sixteen bits, since those before it were accepted. -/
theorem lt_of_loadFrom_take (ha : a < 0x10000) (hk : k ≤ bytes.length) {n : Nat}
    (hn : (AddressSpace.loadFrom (.ok a m) (bytes.take k)).result = .ok n) :
    n = a + k ∧ n < 0x10000 := by
  have hlength : (bytes.take k).length = k := by rw [List.length_take, Nat.min_eq_left hk]
  rcases forall_or_exists_first (fun k => m.policy.accepts m.programStart (a + k))
    (bytes.take k).length with h | ⟨j, hj, hrefused, h⟩
  · obtain ⟨hresult, -⟩ := loadFrom_of_accepts h
    rw [hresult, hlength] at hn
    cases hn
    rw [hlength] at h
    exact ⟨rfl, lt_of_forall_accepts ha h⟩
  · obtain ⟨hresult, -⟩ := loadFrom_of_not_accepts ha hj hrefused h
    rw [hresult] at hn
    cases hn

/-! ### Loads -/

section

variable {a : UInt16}

theorem load_eq_map (m : Memory) (bytes : List UInt8) (a : UInt16) : AddressSpace.load m bytes a =
    (AddressSpace.loadFrom (.ok a.toNat m) bytes).map fun _ => () :=
  Outcome.andThen_ok_eq_map _ _

/-- A load is complete if all its addresses are accepted. -/
theorem load_of_accepts
    (h : ∀ k < bytes.length, m.policy.accepts m.programStart (a.toNat + k)) :
    (AddressSpace.load m bytes a).result = .ok () ∧
      (AddressSpace.load m bytes a).state = m.filled a.toNat bytes := by
  obtain ⟨hresult, hstate⟩ := loadFrom_of_accepts h
  rw [load_eq_map, Outcome.map, hresult, hstate]
  exact ⟨rfl, rfl⟩

/-- Otherwise it stops at the first of them that is refused. -/
theorem load_of_not_accepts (hk : k < bytes.length)
    (hrefused : ¬ m.policy.accepts m.programStart (a.toNat + k))
    (h : ∀ j < k, m.policy.accepts m.programStart (a.toNat + j)) :
    (AddressSpace.load m bytes a).result =
        .error (if a.toNat + k < 4096 then .reserved (UInt16.ofNat (a.toNat + k))
          else .outOfBounds (UInt16.ofNat (a.toNat + k))) ∧
      (AddressSpace.load m bytes a).state = m.filled a.toNat (bytes.take k) := by
  obtain ⟨hresult, hstate⟩ := loadFrom_of_not_accepts a.toNat_lt hk hrefused h
  rw [load_eq_map, Outcome.map, hresult, hstate]
  exact ⟨rfl, rfl⟩

/-- If a cell is reserved, all cells before it are. -/
theorem not_accepts_of_le {policy : WritePolicy} {start : UInt16} {j k : Nat} (hk : k < 4096)
    (h : ¬ policy.accepts start k) (hj : j ≤ k) : ¬ policy.accepts start j := by
  cases policy with
  | permissive => simp [WritePolicy.accepts, hk] at h
  | strict =>
    have hlt : k < start.toNat := by simpa [WritePolicy.accepts, hk] using h
    have hnot : ¬ start.toNat ≤ j := Nat.not_le.2 (hj.trans_lt hlt)
    simp [WritePolicy.accepts, hnot]

/-- So a load that goes up comes upon a reserved cell at once or not at all. -/
theorem load_of_reserved {address : UInt16}
    (h : (AddressSpace.load m bytes a).result = .error (.reserved address)) :
    address = a ∧ (AddressSpace.load m bytes a).state = m := by
  rcases forall_or_exists_first (fun k => m.policy.accepts m.programStart (a.toNat + k))
    bytes.length with hall | ⟨k, hk, hrefused, hbefore⟩
  · obtain ⟨hresult, -⟩ := load_of_accepts hall
    rw [hresult] at h
    cases h
  · obtain ⟨hresult, hstate⟩ := load_of_not_accepts hk hrefused hbefore
    rw [hresult] at h
    split at h
    case isFalse => cases h
    case isTrue hcell =>
      obtain rfl : k = 0 := by
        by_contra hpos
        exact not_accepts_of_le hcell hrefused (Nat.le_add_right _ _)
          (hbefore 0 (Nat.pos_of_ne_zero hpos))
      cases h
      rw [hstate, List.take_zero, filled_nil]
      exact ⟨UInt16.ofNat_toNat, rfl⟩

end

/-- A load stores its bytes up to the first that is not accepted at its address. If there is none,
it succeeds, and the cells from the first address on hold the bytes and count as written. If there
is one, the cells before it do so, and the fault names its address, as a reserved cell or as one
beyond the last. In either case memory is otherwise as it was. A load that is refused for a reserved
cell is refused for its first, so it has changed nothing. And whenever the turn comes to a byte, its
address is one of sixteen bits, however many bytes there are. -/
theorem load_stores_until_refused (m : Memory) (bytes : List UInt8) (a : UInt16) :
    let accepted (k : Nat) : Prop := m.policy.accepts m.programStart (a.toNat + k)
    let loaded := AddressSpace.load m bytes a
    ((∀ k < bytes.length, accepted k) →
      loaded.result = .ok () ∧ loaded.state = m.filled a.toNat bytes) ∧
    (∀ k < bytes.length, ¬ accepted k → (∀ j < k, accepted j) →
      (∃ address : UInt16, address.toNat = a.toNat + k ∧ loaded.result =
        .error (if a.toNat + k < 0x1000 then .reserved address else .outOfBounds address)) ∧
      loaded.state = m.filled a.toNat (bytes.take k)) ∧
    (∀ address, loaded.result = .error (.reserved address) → address = a ∧ loaded.state = m) ∧
    ∀ k < bytes.length, ∀ n,
      (AddressSpace.loadFrom (.ok a.toNat m) (bytes.take k)).result = .ok n →
        n = a.toNat + k ∧ n < 0x10000 := by
  intro accepted loaded
  refine ⟨load_of_accepts, ?_, fun _ => load_of_reserved, ?_⟩
  · intro k hk hrefused h
    obtain ⟨hresult, hstate⟩ := load_of_not_accepts hk hrefused h
    have haddress := UInt16.toNat_ofNat_of_lt (lt_of_forall_accepts a.toNat_lt h)
    exact ⟨⟨_, haddress, hresult⟩, hstate⟩
  · intro k hk n hn
    exact lt_of_loadFrom_take a.toNat_lt hk.le hn

end ChipEight.Memory
