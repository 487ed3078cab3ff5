import ChipEight.Proofs.Memory.Cells
import Mathlib.Data.List.Induction

/-!
# Histories of a memory

Whoever owns a memory stores bytes in it, one by one or in runs, and moves the program's start, in
any order. A byte is accepted at an address if there is a cell and the policy or the program's start
at that time leave it free to write. Of a run those bytes are accepted that come before the first
that is not.

All that can be told of a memory is told by what it accepted. A cell holds the last byte that was
accepted for it, or what it held at first if there was none.
-/

namespace ChipEight

/-- Is a byte accepted at an address, if programs start at `start`? -/
def WritePolicy.accepts (policy : WritePolicy) (start : UInt16) (address : Nat) : Bool :=
  address < 4096 && (policy = .permissive || start.toNat ≤ address)

theorem isOk_iff_eq_ok {ε : Type} {e : Except ε Unit} : e.isOk = true ↔ e = .ok () := by
  cases e <;> simp [Except.isOk, Except.toBool]

/-- Behind a value the rest goes on from the state that was left. -/
theorem Outcome.andThen_of_result_eq_ok {σ ε α β : Type} {o : Outcome σ ε α} {a : α}
    (h : o.result = .ok a) (next : α → σ → Outcome σ ε β) :
    (o.andThen next).result = (next a o.state).result ∧
      (o.andThen next).state = (next a o.state).state := by
  rw [andThen, h]
  exact ⟨rfl, rfl⟩

namespace Memory

inductive Request where
  | write (address : UInt16) (byte : UInt8)
  | load (bytes : List UInt8) (address : UInt16)
  | loadProgram (bytes : List UInt8)
  | setStart (address : UInt16)

/-! ### What memory does -/

def serve (m : Memory) : Request → Outcome Memory Fault Unit
  | .write a b         => (m.write a b).andThen fun _ m => .ok () m
  | .load bytes a      => AddressSpace.load m bytes a
  | .loadProgram bytes => m.loadProgram bytes
  | .setStart a        => .ok () { m with programStart := a }

/-- Memory behind a history. A request that fails does not end it. -/
def serveAll (m : Memory) (requests : List Request) : Memory :=
  requests.foldl (fun m r => (m.serve r).state) m

/-! ### What is accepted -/

namespace Request

/-- The bytes that are to be stored, each with its address. -/
def given (start : UInt16) : Request → List (UInt8 × Nat)
  | .write a b         => [(b, a.toNat)]
  | .load bytes a      => bytes.zipIdx a.toNat
  | .loadProgram bytes => bytes.zipIdx start.toNat
  | .setStart _        => []

/-- Those before the first that is not accepted. -/
def accepted (policy : WritePolicy) (start : UInt16) (r : Request) : List (UInt8 × Nat) :=
  (r.given start).takeWhile fun s => policy.accepts start s.2

def start? : Request → Option UInt16
  | .setStart a => some a
  | _           => none

end Request

/-- All bytes that are accepted in a history, in order. -/
def accepted (policy : WritePolicy) : UInt16 → List Request → List (UInt8 × Nat)
  | _, []                 => []
  | start, r :: requests =>
    r.accepted policy start ++ accepted policy (r.start?.getD start) requests

/-- Where programs start at one time or another in a history. -/
def starts (start : UInt16) (requests : List Request) : List UInt16 :=
  start :: requests.filterMap Request.start?

/-- The last of some bytes that is meant for an address. -/
def lastByte? (stored : List (UInt8 × Nat)) (a : Nat) : Option UInt8 :=
  (stored.filter fun s => s.2 = a).getLast?.map Prod.fst

/-! ### Storing single bytes -/

/-- Store a byte where there is a cell for it. -/
def keep (m : Memory) (s : UInt8 × Nat) : Memory :=
  if h : s.2 < 4096 then m.put ⟨s.2, h⟩ s.1 else m

@[simp] theorem policy_keep (m : Memory) (s : UInt8 × Nat) : (m.keep s).policy = m.policy := by
  unfold keep
  split <;> rfl

@[simp] theorem programStart_keep (m : Memory) (s : UInt8 × Nat) :
    (m.keep s).programStart = m.programStart := by
  unfold keep
  split <;> rfl

theorem getElem?_keep (m : Memory) (s : UInt8 × Nat) {k : Nat} (hk : k < 4096) :
    (m.keep s).cells[k]? = if s.2 = k then some ⟨s.1, true⟩ else m.cells[k]? := by
  by_cases h : s.2 < 4096
  · simp only [keep, h, dif_pos, put]
    rw [Vector.getElem?_set]
  · have hne : s.2 ≠ k := by omega
    simp [keep, h, hne]

/-! ### The last byte for an address -/

theorem lastByte?_concat (stored : List (UInt8 × Nat)) (s : UInt8 × Nat) (a : Nat) :
    lastByte? (stored ++ [s]) a = if s.2 = a then some s.1 else lastByte? stored a := by
  by_cases h : s.2 = a
  · simp [lastByte?, h]
  · simp [lastByte?, h]

theorem lastByte?_append (stored stored' : List (UInt8 × Nat)) (a : Nat) :
    lastByte? (stored ++ stored') a = (lastByte? stored' a).or (lastByte? stored a) := by
  simp [lastByte?, List.getLast?_append, Option.map_or]

theorem lastByte?_eq_none_iff {stored : List (UInt8 × Nat)} {a : Nat} :
    lastByte? stored a = none ↔ ∀ b, (b, a) ∉ stored := by
  rw [lastByte?, Option.map_eq_none_iff, List.getLast?_eq_none_iff, List.filter_eq_nil_iff]
  constructor
  · intro h b hb
    exact h (b, a) hb (decide_eq_true rfl)
  · rintro h ⟨b, a'⟩ hb ha
    obtain rfl : a' = a := of_decide_eq_true ha
    exact h b hb

theorem lastByte?_isSome_iff {stored : List (UInt8 × Nat)} {a : Nat} :
    (lastByte? stored a).isSome = true ↔ ∃ b, (b, a) ∈ stored := by
  rw [Option.isSome_iff_ne_none, Ne, lastByte?_eq_none_iff]
  simp

/-- Storing bytes one after the other leaves the last one for each address. -/
theorem getElem?_foldl_keep (m : Memory) (stored : List (UInt8 × Nat)) {k : Nat} (hk : k < 4096) :
    (stored.foldl keep m).cells[k]? =
      (lastByte? stored k).elim m.cells[k]? fun b => some ⟨b, true⟩ := by
  induction stored using List.reverseRecOn with
  | nil => rfl
  | append_singleton stored s ih =>
    rw [List.foldl_append, List.foldl_cons, List.foldl_nil, getElem?_keep _ _ hk, ih,
      lastByte?_concat]
    split <;> rfl

@[simp] theorem policy_foldl_keep (m : Memory) (stored : List (UInt8 × Nat)) :
    (stored.foldl keep m).policy = m.policy := by
  induction stored generalizing m with
  | nil => rfl
  | cons s stored ih => rw [List.foldl_cons, ih, policy_keep]

@[simp] theorem programStart_foldl_keep (m : Memory) (stored : List (UInt8 × Nat)) :
    (stored.foldl keep m).programStart = m.programStart := by
  induction stored generalizing m with
  | nil => rfl
  | cons s stored ih => rw [List.foldl_cons, ih, programStart_keep]

/-! ### Writing and loading -/

/-- Is a byte accepted at its address as things stand? -/
def accepts (m : Memory) (s : UInt8 × Nat) : Bool := m.policy.accepts m.programStart s.2

theorem accepts_keep (m : Memory) (s : UInt8 × Nat) : (m.keep s).accepts = m.accepts := by
  funext s'
  rw [accepts, accepts, policy_keep, programStart_keep]

section

variable {m : Memory} {a : UInt16} {b : UInt8}

theorem write_of_accepts (h : m.accepts (b, a.toNat) = true) :
    (m.write a b).result = .ok b ∧ (m.write a b).state = m.keep (b, a.toNat) := by
  simp only [accepts, WritePolicy.accepts, Bool.and_eq_true, Bool.or_eq_true,
    decide_eq_true_eq] at h
  obtain ⟨ha, hfree⟩ := h
  rw [write, dif_pos ha, keep, dif_pos ha]
  by_cases hreserved : m.isReserved a = true
  · have hbelow : ¬ m.programStart.toNat ≤ a.toNat := by
      simpa [isReserved, UInt16.lt_iff_toNat_lt] using hreserved
    have hpolicy : m.policy = .permissive := hfree.resolve_right hbelow
    rw [if_pos hreserved, hpolicy]
    exact ⟨rfl, rfl⟩
  · rw [if_neg hreserved]
    exact ⟨rfl, rfl⟩

theorem write_of_not_accepts (h : m.accepts (b, a.toNat) = false) :
    m.write a b = .fail (if a.toNat < 4096 then .reserved a else .outOfBounds a) m := by
  by_cases ha : a.toNat < 4096
  · simp only [accepts, WritePolicy.accepts, ha, decide_true, Bool.true_and,
      Bool.or_eq_false_iff, decide_eq_false_iff_not] at h
    obtain ⟨hpolicy, hbelow⟩ := h
    have hstrict : m.policy = .strict := by
      cases hm : m.policy with
      | strict => rfl
      | permissive => exact absurd hm hpolicy
    have hreserved : m.isReserved a = true := by
      simpa [isReserved, UInt16.lt_iff_toNat_lt] using hbelow
    rw [write, dif_pos ha, if_pos hreserved, hstrict, if_pos ha]
  · rw [write, dif_neg ha, if_neg ha]

end

section

variable {m : Memory} {a : Nat} {b : UInt8}

theorem lt_of_accepts {policy : WritePolicy} {start : UInt16}
    (h : policy.accepts start a = true) : a < 4096 := by
  rw [WritePolicy.accepts, Bool.and_eq_true, decide_eq_true_eq] at h
  exact h.1

theorem loadByte_eq (ha : a < 0x10000) : AddressSpace.loadByte b a m =
    (m.write (UInt16.ofNat a) b).andThen fun _ m => .ok (a + 1) m := by
  rw [AddressSpace.loadByte, if_pos ha]
  rfl

theorem loadByte_of_accepts (h : m.accepts (b, a) = true) :
    (AddressSpace.loadByte b a m).result = .ok (a + 1) ∧
      (AddressSpace.loadByte b a m).state = m.keep (b, a) := by
  have ha : a < 0x10000 := (lt_of_accepts h).trans (by decide)
  have hn : (UInt16.ofNat a).toNat = a := UInt16.toNat_ofNat_of_lt ha
  obtain ⟨hresult, hstate⟩ := write_of_accepts (a := UInt16.ofNat a) (by rwa [hn])
  rw [hn] at hstate
  obtain ⟨hresult, hstate'⟩ := Outcome.andThen_of_result_eq_ok hresult
    fun _ m => (.ok (a + 1) m : Outcome Memory Fault Nat)
  rw [loadByte_eq ha, hresult, hstate', hstate]
  exact ⟨rfl, rfl⟩

theorem loadByte_eq_fail (ha : a < 0x10000) (h : m.accepts (b, a) = false) :
    AddressSpace.loadByte b a m =
      .fail (if a < 4096 then .reserved (UInt16.ofNat a) else .outOfBounds (UInt16.ofNat a)) m := by
  have hn : (UInt16.ofNat a).toNat = a := UInt16.toNat_ofNat_of_lt ha
  rw [loadByte_eq ha, write_of_not_accepts (a := UInt16.ofNat a) (by rwa [hn]), hn,
    Outcome.fail_andThen]

theorem loadByte_of_not_accepts (h : m.accepts (b, a) = false) :
    ∃ fault, AddressSpace.loadByte b a m = .fail fault m := by
  by_cases ha : a < 0x10000
  · exact ⟨_, loadByte_eq_fail ha h⟩
  · rw [AddressSpace.loadByte, if_neg ha]
    exact ⟨_, rfl⟩

/-- A load stores what is accepted, and succeeds if this is all of it. -/
theorem loadFrom_stores_accepted (m : Memory) (a : Nat) (bytes : List UInt8) :
    (AddressSpace.loadFrom (.ok a m) bytes).result.isOk = (bytes.zipIdx a).all m.accepts ∧
      (AddressSpace.loadFrom (.ok a m) bytes).state =
        ((bytes.zipIdx a).takeWhile m.accepts).foldl keep m := by
  induction bytes generalizing m a with
  | nil => exact ⟨rfl, rfl⟩
  | cons b bytes ih =>
    rw [AddressSpace.loadFrom_cons, Outcome.ok_andThen, AddressSpace.loadFrom_eq_andThen,
      List.zipIdx_cons, List.all_cons, List.takeWhile_cons]
    cases h : m.accepts (b, a) with
    | false =>
      obtain ⟨fault, hfail⟩ := loadByte_of_not_accepts h
      rw [hfail]
      exact ⟨rfl, rfl⟩
    | true =>
      obtain ⟨hresult, hstate⟩ := loadByte_of_accepts h
      obtain ⟨hresult, hstate'⟩ := Outcome.andThen_of_result_eq_ok hresult
        fun a m => AddressSpace.loadFrom (.ok a m) bytes
      obtain ⟨hok, hkept⟩ := ih (m.keep (b, a)) (a + 1)
      rw [hresult, hstate', hstate, hok, hkept, accepts_keep]
      exact ⟨rfl, rfl⟩

/-- A load stores just the bytes that are accepted, also if it fails. -/
theorem load_stores_accepted (m : Memory) (a : UInt16) (bytes : List UInt8) :
    (AddressSpace.load m bytes a).result.isOk = (bytes.zipIdx a.toNat).all m.accepts ∧
      (AddressSpace.load m bytes a).state =
        ((bytes.zipIdx a.toNat).takeWhile m.accepts).foldl keep m := by
  obtain ⟨hok, hkept⟩ := loadFrom_stores_accepted m a.toNat bytes
  rw [AddressSpace.load, ← hok, ← hkept]
  obtain ⟨_ | _, _, _⟩ := AddressSpace.loadFrom (.ok a.toNat m) bytes <;> exact ⟨rfl, rfl⟩

end

/-! ### Requests -/

/-- A request is served as far as its bytes are accepted, and succeeds if all of them are. -/
theorem serve_stores_accepted (m : Memory) (r : Request) :
    (m.serve r).result.isOk = (r.given m.programStart).all m.accepts ∧
      (m.serve r).state = ((r.given m.programStart).takeWhile m.accepts).foldl keep
        { m with programStart := r.start?.getD m.programStart } := by
  cases r with
  | write a b =>
    rw [Request.given, List.all_cons, List.takeWhile_cons]
    cases h : m.accepts (b, a.toNat) with
    | false =>
      rw [serve, write_of_not_accepts h]
      exact ⟨rfl, rfl⟩
    | true =>
      obtain ⟨hresult, hstate⟩ := write_of_accepts h
      obtain ⟨hresult, hstate'⟩ := Outcome.andThen_of_result_eq_ok hresult
        fun _ m => (.ok () m : Outcome Memory Fault Unit)
      rw [serve, hresult, hstate', hstate]
      exact ⟨rfl, rfl⟩
  | load bytes a => exact load_stores_accepted m a bytes
  | loadProgram bytes => exact load_stores_accepted m m.programStart bytes
  | setStart a => exact ⟨rfl, rfl⟩

/-! ### Histories -/

/-- What was accepted in a history says what the cells hold behind it. -/
theorem getElem?_serveAll (m : Memory) (requests : List Request) {k : Nat} (hk : k < 4096) :
    (m.serveAll requests).cells[k]? =
      (lastByte? (accepted m.policy m.programStart requests) k).elim m.cells[k]?
        fun b => some ⟨b, true⟩ := by
  induction requests generalizing m with
  | nil => rfl
  | cons r requests ih =>
    obtain ⟨-, hstate⟩ := serve_stores_accepted m r
    have hpolicy : (m.serve r).state.policy = m.policy := by rw [hstate, policy_foldl_keep]
    have hstart : (m.serve r).state.programStart = r.start?.getD m.programStart := by
      rw [hstate, programStart_foldl_keep]
    have hcell : (m.serve r).state.cells[k]? =
        (lastByte? (r.accepted m.policy m.programStart) k).elim m.cells[k]?
          fun b => some ⟨b, true⟩ := by
      rw [hstate, getElem?_foldl_keep _ _ hk]
      rfl
    rw [serveAll, List.foldl_cons, ← serveAll, ih, hpolicy, hstart, hcell, accepted,
      lastByte?_append]
    cases lastByte? (accepted m.policy (r.start?.getD m.programStart) requests) k <;> rfl

theorem starts_subset (start : UInt16) (r : Request) (requests : List Request) :
    starts (r.start?.getD start) requests ⊆ starts start (r :: requests) := by
  cases r with
  | setStart a => exact List.subset_cons_self _ _
  | _ => exact fun _ h => h

/-- What is accepted is accepted for where programs start at the time. -/
theorem exists_start_of_mem_accepted {policy : WritePolicy} {start : UInt16}
    {requests : List Request} {s : UInt8 × Nat} (h : s ∈ accepted policy start requests) :
    ∃ st ∈ starts start requests, policy.accepts st s.2 = true := by
  induction requests generalizing start with
  | nil => cases h
  | cons r requests ih =>
    rcases List.mem_append.1 h with h | h
    · exact ⟨start, List.mem_cons_self, List.all_eq_true.1 List.all_takeWhile s h⟩
    · obtain ⟨st, hst, haccepts⟩ := ih h
      exact ⟨st, starts_subset start r requests hst, haccepts⟩

theorem lt_of_mem_accepted {policy : WritePolicy} {start : UInt16} {requests : List Request}
    {b : UInt8} {a : Nat} (h : (b, a) ∈ accepted policy start requests) : a < 4096 := by
  obtain ⟨st, -, haccepts⟩ := exists_start_of_mem_accepted h
  exact lt_of_accepts haccepts

section

variable (policy : WritePolicy) (requests : List Request)

theorem serveAll_policy (m : Memory) : (m.serveAll requests).policy = m.policy := by
  induction requests generalizing m with
  | nil => rfl
  | cons r requests ih =>
    rw [serveAll, List.foldl_cons, ← serveAll, ih, (serve_stores_accepted m r).2,
      policy_foldl_keep]

theorem getElem?_serveAll_fresh (k : Nat) :
    ((fresh policy).serveAll requests).cells[k]? =
      (lastByte? (accepted policy defaultStart requests) k).elim (fresh policy).cells[k]?
        fun b => some ⟨b, true⟩ := by
  by_cases hk : k < 4096
  · exact getElem?_serveAll (fresh policy) requests hk
  · have hnone : lastByte? (accepted policy defaultStart requests) k = none :=
      lastByte?_eq_none_iff.2 fun b hb => hk (lt_of_mem_accepted hb)
    rw [hnone]
    simp [hk]

theorem isWritten_serveAll_fresh (a : UInt16) : ((fresh policy).serveAll requests).isWritten a =
    (lastByte? (accepted policy defaultStart requests) a.toNat).isSome := by
  have hfresh := isWritten_fresh policy a
  rw [isWritten_eq] at hfresh ⊢
  rw [getElem?_serveAll_fresh]
  cases lastByte? (accepted policy defaultStart requests) a.toNat with
  | none => exact hfresh
  | some b => rfl

theorem byteAt_serveAll_fresh (a : Nat) : ((fresh policy).serveAll requests).byteAt a =
    (lastByte? (accepted policy defaultStart requests) a).getD ((fresh policy).byteAt a) := by
  rw [byteAt, getElem?_serveAll_fresh]
  cases lastByte? (accepted policy defaultStart requests) a <;> rfl

/-- Strict memory accepts nothing before every place where programs start. -/
theorem lastByte?_accepted_strict {a : UInt16}
    (ha : ∀ start ∈ starts defaultStart requests, a < start) :
    lastByte? (accepted .strict defaultStart requests) a.toNat = none := by
  refine lastByte?_eq_none_iff.2 fun b hb => ?_
  obtain ⟨start, hstart, haccepts⟩ := exists_start_of_mem_accepted hb
  have hlt := UInt16.lt_iff_toNat_lt.1 (ha start hstart)
  simp [WritePolicy.accepts, Nat.not_le.2 hlt] at haccepts

end

/-- Memory is faithful to its history, whichever requests were made of it from the beginning, in any
order, and whether they succeeded or failed. A cell counts as written if and only if some byte was
accepted for it. It holds the last of these, and the font or zero if there was none. A read yields
the bytes from its address on, in order and as far as there are cells, and a word is made of two of
them, with zeros beyond the end. What counts as accepted shows in the answers: a request succeeds
exactly if all its bytes are. Strict memory never touches a cell that lies before every place where
programs started in the course of the history. -/
theorem history_is_kept (policy : WritePolicy) (requests : List Request) :
    let m := (fresh policy).serveAll requests
    let stored := accepted policy defaultStart requests
    (∀ a : UInt16, m.isWritten a = true ↔ ∃ b, (b, a.toNat) ∈ stored) ∧
    (∀ a, m.byteAt a = (lastByte? stored a).getD
      (if fontStart ≤ a then font.getD (a - fontStart) 0 else 0)) ∧
    (∀ (a : UInt16) (n : Nat), m.read a n =
      (List.range' a.toNat (min (a.toNat + n) 0x1000 - a.toNat)).map m.byteAt) ∧
    (∀ a : UInt16, (AddressSpace.word m a).toNat =
      0x100 * (m.byteAt a.toNat).toNat + (m.byteAt (a.toNat + 1)).toNat) ∧
    (∀ a, 0x1000 ≤ a → m.byteAt a = 0) ∧
    (∀ r, (m.serve r).result = .ok () ↔
      ∀ s ∈ r.given m.programStart, policy.accepts m.programStart s.2 = true) ∧
    (policy = .strict → ∀ a : UInt16, (∀ start ∈ starts defaultStart requests, a < start) →
      ∀ k, let now := (fresh policy).serveAll (requests.take k)
        now.isWritten a = false ∧ now.byteAt a.toNat = (fresh policy).byteAt a.toNat) := by
  intro m stored
  refine ⟨?_, ?_, m.read_eq, ?_, ?_, ?_, ?_⟩
  · intro a
    have hwritten : m.isWritten a = (lastByte? stored a.toNat).isSome :=
      isWritten_serveAll_fresh policy requests a
    rw [hwritten, lastByte?_isSome_iff]
  · intro a
    rw [← byteAt_fresh policy]
    exact byteAt_serveAll_fresh policy requests a
  · intro a
    rw [word_eq, Word.toNat_ofBytes]
  · intro a ha
    exact byteAt_eq_zero ha
  · intro r
    have hpolicy : m.policy = policy := serveAll_policy requests (fresh policy)
    rw [← isOk_iff_eq_ok, (serve_stores_accepted m r).1, List.all_eq_true, ← hpolicy]
    rfl
  · rintro rfl a ha k now
    have hstarts : starts defaultStart (requests.take k) ⊆ starts defaultStart requests :=
      List.cons_subset_cons _ ((List.take_sublist k requests).filterMap _).subset
    have hnone := lastByte?_accepted_strict (requests.take k) fun start h => ha start (hstarts h)
    constructor
    · rw [isWritten_serveAll_fresh, hnone]
      rfl
    · rw [byteAt_serveAll_fresh, hnone]
      rfl

end Memory

end ChipEight
