import ChipEight.Proofs.Machine.Requests
import ChipEight.Proofs.Machine.Step
import ChipEight.Proofs.Memory.Policy

/-!
# What depends on the policy of a machine's memory

Only a write from outside that goes below the program's start can tell a strict machine from a
permissive one. Programs are loaded from their start on, and nothing else that a machine does writes
to its memory at all. So two machines that differ in their policies go on to differ in nothing else
until such a write is asked for, and there the strict one refuses what the other does not.
-/

namespace ChipEight

namespace Machine

variable {S : Type} {m : Machine S} {p : WritePolicy}

def withPolicy (m : Machine S) (p : WritePolicy) : Machine S :=
  { m with memory := m.memory.withPolicy p }

@[simp] theorem registers_withPolicy : (m.withPolicy p).registers = m.registers := rfl

@[simp] theorem fetch?_withPolicy : (m.withPolicy p).fetch? = m.fetch? := rfl

/-- The second machine is the first under the policy. -/
def UnderPolicy (p : WritePolicy) (m m' : Machine S) : Prop := m' = m.withPolicy p

theorem onMemory_underPolicy {α : Type} {o o' : Outcome Memory Memory.Fault α}
    (h : o.Related (Memory.UnderPolicy p) o') (reply : α → Reply) :
    (m.onMemory o reply).Related (UnderPolicy p) ((m.withPolicy p).onMemory o' reply) := by
  apply Outcome.Related.map
  apply h.lift
  rintro _ _ rfl
  rfl

theorem onRegisters_underPolicy (m : Machine S) (p : WritePolicy)
    (answer : Except Register.Fault (Option UInt16 × RegisterFile)) :
    (m.onRegisters answer).Related (UnderPolicy p) ((m.withPolicy p).onRegisters answer) := by
  cases answer <;> exact ⟨rfl, rfl, rfl⟩

theorem loadRom_underPolicy (m : Machine S) (p : WritePolicy) (rom : Rom) :
    (m.loadRom rom).Related (UnderPolicy p) ((m.withPolicy p).loadRom rom) := by
  unfold loadRom
  apply Outcome.Related.andThen
  · apply (m.memory.loadProgram_underPolicy rom.bytes p).lift
    rintro _ _ rfl
    rfl
  · rintro _ _ _ rfl
    exact ⟨rfl, rfl, rfl⟩

theorem loadDelivery_underPolicy (m : Machine S) (p : WritePolicy) (delivery : List Delivery) :
    (m.loadDelivery delivery).Related (UnderPolicy p)
      ((m.withPolicy p).loadDelivery delivery) := by
  rw [loadDelivery, loadDelivery]
  cases Rom.ofDelivery delivery with
  | error fault => exact ⟨rfl, rfl, rfl⟩
  | ok rom => exact m.loadRom_underPolicy p rom

theorem state_loadRom (m : Machine S) (rom : Rom) :
    (m.loadRom rom).state = { m with memory := (m.memory.loadProgram rom.bytes).state } := by
  unfold loadRom
  obtain ⟨_ | _, _, _⟩ := m.memory.loadProgram rom.bytes <;> rfl

variable [Surface S]

theorem draw_underPolicy (m : Machine S) (p : WritePolicy) (rx ry : Register) (rows : UInt8) :
    (m.draw rx ry rows).Related (UnderPolicy p) ((m.withPolicy p).draw rx ry rows) := by
  cases hx : m.registers.read rx with
  | error fault =>
    rw [draw, draw, registers_withPolicy, hx]
    exact ⟨rfl, rfl, rfl⟩
  | ok x =>
    cases hy : m.registers.read ry with
    | error fault =>
      rw [draw, draw, registers_withPolicy, hx, hy]
      exact ⟨rfl, rfl, rfl⟩
    | ok y =>
      rw [draw_eq rows hx hy, draw_eq (m := m.withPolicy p) rows hx hy]
      exact ⟨rfl, rfl, rfl⟩

/-- No instruction writes to memory. -/
theorem execute_underPolicy (m : Machine S) (p : WritePolicy) (i : Instruction) :
    (m.execute i).Related (UnderPolicy p) ((m.withPolicy p).execute i) := by
  cases i with
  | clear | jump | loadIndex | unknown => exact ⟨rfl, rfl, rfl⟩
  | ret =>
    rw [execute, execute, ret_eq, ret_eq]
    exact ⟨rfl, rfl, rfl⟩
  | call target =>
    rw [execute, execute, call_eq, call_eq]
    exact ⟨rfl, rfl, rfl⟩
  | skipIfEqual left right | skipIfNotEqual left right =>
    rw [execute, execute, registers_withPolicy]
    cases m.registers.agree left right with
    | error fault => exact ⟨rfl, rfl, rfl⟩
    | ok same => cases same <;> exact ⟨rfl, rfl, rfl⟩
  | load target source =>
    rw [execute, execute, registers_withPolicy]
    cases m.registers.load target source <;> exact ⟨rfl, rfl, rfl⟩
  | draw rx ry rows => exact m.draw_underPolicy p rx ry rows

/-- A step does the same under either policy. -/
theorem step_underPolicy (m : Machine S) (p : WritePolicy) :
    m.step.Related (UnderPolicy p) (m.withPolicy p).step := by
  rw [step, step, fetch?_withPolicy]
  cases m.fetch? with
  | none => exact ⟨rfl, rfl, rfl⟩
  | some w =>
    have hnote : (Outcome.note (.executing m.registers.pc (.decode m.instructions w)) m).Related
        (UnderPolicy p) (Outcome.note (ε := Fault)
          (.executing m.registers.pc (.decode m.instructions w)) (m.withPolicy p)) :=
      ⟨rfl, rfl, rfl⟩
    apply hnote.andThen
    rintro _ m _ rfl
    apply (m.execute_underPolicy p _).andThen
    rintro _ m _ rfl
    exact ⟨rfl, rfl, rfl⟩

/-- So does a run. -/
theorem after_withPolicy (m : Machine S) (p : WritePolicy) (n : Nat) :
    (m.withPolicy p).after n = (m.after n).withPolicy p := by
  induction n generalizing m with
  | zero => rfl
  | succ n ih =>
    have hstep : (m.withPolicy p).step.state = m.step.state.withPolicy p :=
      (m.step_underPolicy p).state
    rw [after, hstep, ih, after]

/-! ### Requests -/

/-- Does a request write from outside to a cell below the program's start? -/
def Request.WritesBelow (start : UInt16) (r : Request) : Prop :=
  ∃ a, r.target? = some a ∧ a.toNat < 4096 ∧ a < start

/-- None of some requests does so as things stand when it is made. -/
def Request.Respects : UInt16 → List Request → Prop
  | _, []                 => True
  | start, r :: requests =>
    ¬ r.WritesBelow start ∧ Respects (r.start?.getD start) requests

theorem Request.respects_of_target? {requests : List Request}
    (h : ∀ r ∈ requests, r.target? = none) (start : UInt16) : Respects start requests := by
  induction requests generalizing start with
  | nil => exact trivial
  | cons r requests ih =>
    obtain ⟨hr, hrequests⟩ := List.forall_mem_cons.1 h
    refine ⟨?_, ih hrequests _⟩
    rintro ⟨a, ha, -⟩
    rw [hr] at ha
    cases ha

/-- Any other request makes no difference between policies. -/
theorem serve_underPolicy {r : Request} (h : ¬ r.WritesBelow m.memory.programStart)
    (p : WritePolicy) : (m.serve r).Related (UnderPolicy p) ((m.withPolicy p).serve r) := by
  have hfree (a : UInt16) (htarget : r.target? = some a) (ha : a.toNat < 4096) :
      m.memory.programStart ≤ a :=
    UInt16.not_lt.1 fun hlt => h ⟨a, htarget, ha, hlt⟩
  cases r with
  | loadRom rom => exact (m.loadRom_underPolicy p rom).map _
  | loadDelivery delivery => exact (m.loadDelivery_underPolicy p delivery).map _
  | step => exact (m.step_underPolicy p).map _
  | execute i => exact (m.execute_underPolicy p i).map _
  | registers r => exact m.onRegisters_underPolicy p _
  | write a b => exact onMemory_underPolicy (Memory.write_underPolicy (hfree a rfl) p b) _
  | load bytes a =>
    have hs (hne : bytes ≠ []) : a.toNat < 4096 → m.memory.programStart ≤ a := by
      obtain ⟨b, bytes, rfl⟩ := List.exists_cons_of_ne_nil hne
      exact hfree a rfl
    exact onMemory_underPolicy (Memory.load_underPolicy hs p) _
  | loadProgram bytes => exact onMemory_underPolicy (m.memory.loadProgram_underPolicy bytes p) _
  | refresh | setStart | read | word | isWritten | isReserved | slot | query =>
    exact ⟨rfl, rfl, rfl⟩

/-- A write below the program's start is refused by a strict machine. -/
theorem serve_strict {r : Request} (hp : m.memory.policy = .strict)
    (h : r.WritesBelow m.memory.programStart) :
    ∃ a, m.serve r = .fail (.memory (.reserved a)) m := by
  obtain ⟨a, htarget, ha, hlt⟩ := h
  refine ⟨a, ?_⟩
  cases r with
  | write a' b =>
    obtain rfl : a' = a := Option.some.inj htarget
    rw [serve, Memory.write_reserved ha hlt hp]
    rfl
  | load bytes a' =>
    cases bytes with
    | nil => cases htarget
    | cons b bytes =>
      obtain rfl : a' = a := Option.some.inj htarget
      rw [serve, Memory.load_reserved ha hlt hp]
      rfl
  | _ => cases htarget

omit [Surface S] in
theorem result_onMemory_ne {α : Type} {o : Outcome Memory Memory.Fault α} {fault : Memory.Fault}
    (h : o.result ≠ .error fault) (m : Machine S) (reply : α → Reply) :
    (m.onMemory o reply).result ≠ .error (.memory fault) := by
  obtain ⟨a | e, memory, log⟩ := o
  · intro hresult
    obtain rfl : a = fault := Fault.memory.inj (Except.error.inj hresult)
    exact h rfl
  · rintro ⟨⟩

/-- A permissive machine never refuses a write for that reason. -/
theorem serve_permissive {r : Request} (hp : m.memory.policy = .permissive)
    (h : r.WritesBelow m.memory.programStart) (a : UInt16) :
    (m.serve r).result ≠ .error (.memory (.reserved a)) := by
  obtain ⟨a', htarget, ha, hlt⟩ := h
  cases r with
  | write a'' b =>
    obtain rfl : a'' = a' := Option.some.inj htarget
    apply result_onMemory_ne
    rw [(Memory.write_of_accepts (Memory.accepts_of_permissive hp ha b)).1]
    rintro ⟨⟩
  | load bytes a'' => exact result_onMemory_ne (Memory.load_ne_reserved hp a'' bytes a) m _
  | _ => cases htarget

/-- No request changes the policy, and only one moves the program's start. -/
theorem serve_frame (m : Machine S) (r : Request) :
    (m.serve r).state.memory.policy = m.memory.policy ∧
      (m.serve r).state.memory.programStart = r.start?.getD m.memory.programStart := by
  cases r with
  | loadRom rom =>
    rw [serve, Outcome.map, state_loadRom]
    exact m.memory.load_frame _ _
  | loadDelivery delivery =>
    rw [serve, Outcome.map, loadDelivery]
    cases Rom.ofDelivery delivery with
    | error fault => exact ⟨rfl, rfl⟩
    | ok rom =>
      dsimp only
      rw [state_loadRom]
      exact m.memory.load_frame _ _
  | step =>
    rw [serve, Outcome.map, step_memory]
    exact ⟨rfl, rfl⟩
  | execute i =>
    rw [serve, Outcome.map, (m.executes i).memory]
    exact ⟨rfl, rfl⟩
  | registers r =>
    rw [serve]
    cases m.registers.serve r <;> exact ⟨rfl, rfl⟩
  | write a b => exact m.memory.write_frame a b
  | load bytes a => exact m.memory.load_frame bytes a
  | loadProgram bytes => exact m.memory.load_frame bytes _
  | refresh | setStart | read | word | isWritten | isReserved | slot | query => exact ⟨rfl, rfl⟩

/-- Requests that respect where programs start have the same outcomes under another policy. -/
theorem outcomes_underPolicy {requests : List Request}
    (h : Request.Respects m.memory.programStart requests) (p : WritePolicy) :
    List.Forall₂ (Outcome.Related (UnderPolicy p)) (m.outcomes requests)
      ((m.withPolicy p).outcomes requests) := by
  induction requests generalizing m with
  | nil => exact .nil
  | cons r requests ih =>
    obtain ⟨hr, hrequests⟩ := h
    have hserve := serve_underPolicy hr p
    have hstate : ((m.withPolicy p).serve r).state = (m.serve r).state.withPolicy p := hserve.state
    rw [← (m.serve_frame r).2] at hrequests
    rw [outcomes, outcomes, hstate]
    exact .cons hserve (ih hrequests)

/-- The first request that does not is answered differently. -/
theorem outcomes_result_ne {requests : List Request}
    (h : ¬ Request.Respects m.memory.programStart requests) (hp : m.memory.policy = .permissive) :
    ((m.withPolicy .strict).outcomes requests).map Outcome.result ≠
      (m.outcomes requests).map Outcome.result := by
  induction requests generalizing m with
  | nil => exact absurd trivial h
  | cons r requests ih =>
    rw [outcomes, outcomes, List.map_cons, List.map_cons, Ne, List.cons.injEq, not_and]
    by_cases hr : r.WritesBelow m.memory.programStart
    · obtain ⟨a, hrefused⟩ := serve_strict (m := m.withPolicy .strict) rfl hr
      intro hresult
      rw [hrefused] at hresult
      exact absurd hresult.symm (serve_permissive hp hr a)
    · intro _
      have hstate : ((m.withPolicy .strict).serve r).state = (m.serve r).state.withPolicy .strict :=
        (serve_underPolicy hr .strict).state
      have hrequests : ¬ Request.Respects (m.serve r).state.memory.programStart requests := by
        rw [(m.serve_frame r).2]
        exact fun hrest => h ⟨hr, hrest⟩
      rw [hstate]
      exact ih hrequests ((m.serve_frame r).1.trans hp)

end Machine

end ChipEight
