import ChipEight.Proofs.Memory.History
import ChipEight.Proofs.Outcome

/-!
# What the policy of a memory decides

The policy decides on writes below the program's start and on nothing else: strict memory refuses
them, and permissive memory never refuses a write for that reason. All other writes and loads end
alike under both, and a load that stores anything goes only up from where it begins.
-/

namespace ChipEight.Memory

variable {m : Memory} {p : WritePolicy}

def withPolicy (m : Memory) (p : WritePolicy) : Memory := { m with policy := p }

/-- The second memory is the first under the policy. -/
def UnderPolicy (p : WritePolicy) (m m' : Memory) : Prop := m' = m.withPolicy p

theorem write_underPolicy {a : UInt16} (h : a.toNat < 4096 → m.programStart ≤ a) (p : WritePolicy)
    (b : UInt8) : (m.write a b).Related (UnderPolicy p) ((m.withPolicy p).write a b) := by
  by_cases ha : a.toNat < 4096
  · rw [write_eq_put ha (h ha), write_eq_put (m := m.withPolicy p) ha (h ha)]
    exact ⟨rfl, rfl, rfl⟩
  · rw [write, write, dif_neg ha, dif_neg ha]
    exact ⟨rfl, rfl, rfl⟩

/-- Beyond the last cell, neither what memory holds nor its policy counts. -/
theorem exists_loadByte_eq_fail {a : Nat} (ha : 4096 ≤ a) (b : UInt8) :
    ∃ end_, ∀ m : Memory, AddressSpace.loadByte b a m = .fail (.outOfBounds end_) m := by
  by_cases h : a < 0x10000
  · have ha' : (UInt16.ofNat a).toNat = a := UInt16.toNat_ofNat_of_lt h
    have hn : ¬ (UInt16.ofNat a).toNat < 4096 := by
      rw [ha']
      exact Nat.not_lt.2 ha
    refine ⟨UInt16.ofNat a, fun m => ?_⟩
    rw [loadByte_eq h, write, dif_neg hn, Outcome.fail_andThen]
  · refine ⟨0xFFFF, fun m => ?_⟩
    rw [AddressSpace.loadByte, if_neg h]

/-- A load starts beyond all reserved cells, or it refuses its first byte, or there is none. -/
theorem loadFrom_underPolicy {a : Nat} {bytes : List UInt8}
    (h : bytes ≠ [] → a < 4096 → m.programStart.toNat ≤ a) (p : WritePolicy) :
    (AddressSpace.loadFrom (.ok a m) bytes).Related (UnderPolicy p)
      (AddressSpace.loadFrom (.ok a (m.withPolicy p)) bytes) := by
  induction bytes generalizing m a with
  | nil => exact ⟨rfl, rfl, rfl⟩
  | cons b bytes ih =>
    rw [AddressSpace.loadFrom_cons, AddressSpace.loadFrom_cons, Outcome.ok_andThen,
      Outcome.ok_andThen]
    by_cases ha : a < 4096
    · have hs : m.programStart.toNat ≤ a := h (List.cons_ne_nil _ _) ha
      rw [loadByte_eq_put ha hs, loadByte_eq_put (m := m.withPolicy p) ha hs]
      exact ih fun _ _ => Nat.le_succ_of_le hs
    · obtain ⟨_, hfail⟩ := exists_loadByte_eq_fail (Nat.le_of_not_lt ha) b
      rw [hfail, hfail, loadFrom_fail, loadFrom_fail]
      exact ⟨rfl, rfl, rfl⟩

/-- A load from the start on does not depend on the policy. -/
theorem load_underPolicy {a : UInt16} {bytes : List UInt8}
    (h : bytes ≠ [] → a.toNat < 4096 → m.programStart ≤ a) (p : WritePolicy) :
    (AddressSpace.load m bytes a).Related (UnderPolicy p)
      (AddressSpace.load (m.withPolicy p) bytes a) := by
  have hs (hne : bytes ≠ []) (ha : a.toNat < 4096) : m.programStart.toNat ≤ a.toNat :=
    UInt16.le_iff_toNat_le.1 (h hne ha)
  apply (loadFrom_underPolicy hs p).andThen
  rintro _ _ _ rfl
  exact ⟨rfl, rfl, rfl⟩

theorem loadProgram_underPolicy (m : Memory) (bytes : List UInt8) (p : WritePolicy) :
    (m.loadProgram bytes).Related (UnderPolicy p) ((m.withPolicy p).loadProgram bytes) :=
  load_underPolicy (fun _ _ => UInt16.le_refl _) p

/-! ### What writes leave alone -/

theorem write_frame (m : Memory) (a : UInt16) (b : UInt8) :
    (m.write a b).state.policy = m.policy ∧
      (m.write a b).state.programStart = m.programStart := by
  cases h : m.accepts (b, a.toNat) with
  | true =>
    rw [(write_of_accepts h).2]
    exact ⟨policy_keep _ _, programStart_keep _ _⟩
  | false =>
    rw [write_of_not_accepts h]
    exact ⟨rfl, rfl⟩

theorem load_frame (m : Memory) (bytes : List UInt8) (a : UInt16) :
    (AddressSpace.load m bytes a).state.policy = m.policy ∧
      (AddressSpace.load m bytes a).state.programStart = m.programStart := by
  rw [(load_stores_accepted m a bytes).2]
  exact ⟨policy_foldl_keep _ _, programStart_foldl_keep _ _⟩

/-! ### Reserved cells -/

theorem write_reserved {a : UInt16} (ha : a.toNat < 4096) (h : a < m.programStart)
    (hp : m.policy = .strict) (b : UInt8) : m.write a b = .fail (.reserved a) m := by
  have hreserved : m.isReserved a = true := decide_eq_true h
  rw [write, dif_pos ha, if_pos hreserved, hp]

theorem load_reserved {a : UInt16} (ha : a.toNat < 4096) (h : a < m.programStart)
    (hp : m.policy = .strict) (b : UInt8) (bytes : List UInt8) :
    AddressSpace.load m (b :: bytes) a = .fail (.reserved a) m := by
  have hbyte : AddressSpace.loadByte b a.toNat m = .fail (.reserved a) m := by
    rw [loadByte_eq (ha.trans (by decide)), UInt16.ofNat_toNat, write_reserved ha h hp,
      Outcome.fail_andThen]
  rw [AddressSpace.load, AddressSpace.loadFrom_cons, Outcome.ok_andThen, hbyte, loadFrom_fail,
    Outcome.fail_andThen]

theorem accepts_of_permissive (hp : m.policy = .permissive) {a : Nat} (ha : a < 4096) (b : UInt8) :
    m.accepts (b, a) = true := by
  simp [accepts, WritePolicy.accepts, hp, ha]

theorem loadFrom_ne_reserved (hp : m.policy = .permissive) (a : Nat) (bytes : List UInt8)
    (a' : UInt16) :
    (AddressSpace.loadFrom (.ok a m) bytes).result ≠ .error (.reserved a') := by
  induction bytes generalizing m a with
  | nil => rintro ⟨⟩
  | cons b bytes ih =>
    rw [AddressSpace.loadFrom_cons, Outcome.ok_andThen, AddressSpace.loadFrom_eq_andThen]
    by_cases ha : a < 4096
    · obtain ⟨hresult, hstate⟩ := loadByte_of_accepts (accepts_of_permissive hp ha b)
      obtain ⟨hresult, -⟩ := Outcome.andThen_of_result_eq_ok hresult
        fun a m => AddressSpace.loadFrom (.ok a m) bytes
      rw [hresult, hstate]
      apply ih
      rw [policy_keep, hp]
    · obtain ⟨_, hfail⟩ := exists_loadByte_eq_fail (Nat.le_of_not_lt ha) b
      rw [hfail]
      rintro ⟨⟩

theorem load_ne_reserved (hp : m.policy = .permissive) (a : UInt16) (bytes : List UInt8)
    (a' : UInt16) : (AddressSpace.load m bytes a).result ≠ .error (.reserved a') := by
  intro h
  apply loadFrom_ne_reserved hp a.toNat bytes a'
  rw [AddressSpace.load] at h
  cases hload : (AddressSpace.loadFrom (.ok a.toNat m) bytes).result with
  | ok b =>
    rw [(Outcome.andThen_of_result_eq_ok hload _).1] at h
    cases h
  | error fault =>
    rw [Outcome.andThen, hload] at h
    exact Except.error.inj h ▸ rfl

end ChipEight.Memory
