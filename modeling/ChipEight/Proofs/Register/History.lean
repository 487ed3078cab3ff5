import ChipEight.Proofs.Checked.Registers
import ChipEight.Proofs.Register.Access
import ChipEight.Proofs.Register.Names
import Mathlib.Data.List.DropRight

/-!
# Histories of a register file

Registers are written by register and by name, and the program counter and the stack pointer through
accessors of their own, in any order. Some requests are refused, for the register or for the name.

All that can be told of a register is told by the last value that was written to it and, of the
stack pointer, by the steps that were taken since. What is asked of one register makes no difference
to another.
-/

namespace ChipEight

/-- How many values a register can hold. -/
def Register.capacity : Register → Nat
  | .index | .pc => 0x10000
  | _            => 0x100

theorem Guards.eq_error_iff {α : Type} {r : Register} {value : Except Register.Fault α}
    {fault : Register.Fault} (h : Guards [r] value) :
    value = .error fault ↔ (r = .pc ∨ r = .sp) ∧ fault = .restricted r := by
  rw [← Register.isRestricted_iff]
  cases hr : r.isRestricted with
  | true =>
    have hrefused : value = .error (.restricted r) := h.refused (List.find?_cons_of_pos hr)
    simp [hrefused, eq_comm]
  | false =>
    obtain ⟨a, rfl⟩ := h.granted (List.find?_cons_of_neg (by simp [hr]))
    simp

namespace RegisterFile

/-! ### What the file does -/

/-- The file behind a request. A request that is refused leaves it as it was. -/
def behind (f : RegisterFile) (q : Request) : RegisterFile :=
  match f.serve q with
  | .ok (_, f') => f'
  | .error _    => f

/-- The file behind a history. A request that is refused does not end it. -/
def serveAll (f : RegisterFile) (requests : List Request) : RegisterFile :=
  requests.foldl behind f

/-- This is what becomes of the registers of a machine, and nothing else of it changes. -/
theorem state_serve_registers {S : Type} [Surface S] (m : Machine S) (q : Request) :
    (m.serve (.registers q)).state = { m with registers := m.registers.behind q } := by
  rw [Machine.serve, behind]
  cases m.registers.serve q <;> rfl

/-! ### What is asked for -/

namespace Request

/-- Is the register asked for, by itself or by its name? -/
def asks (r : Register) : Request → Bool
  | .read r' | .write r' _               => r' = r
  | .readNamed name | .writeNamed name _ => r.IsNamed name
  | _                                    => false

/-- Is a request about the register? -/
def isFor (r : Register) : Request → Bool
  | .pc | .setPc _                               => r = .pc
  | .sp | .setSp _ | .incrementSp | .decrementSp => r = .sp
  | q                                            => q.asks r

def name? : Request → Option String
  | .readNamed name | .writeNamed name _ => some name
  | _                                    => none

/-- The value that is to be written. -/
def value? : Request → Option UInt32
  | .write _ value | .writeNamed _ value | .setPc value | .setSp value => some value
  | _                                                                  => none

/-- The value that the register takes. The restricted ones take those of their accessors only. -/
def written? (r : Register) : Request → Option UInt32
  | .setPc value => if r = .pc then some value else none
  | .setSp value => if r = .sp then some value else none
  | q            => if q.asks r = true ∧ r.isRestricted = false then q.value? else none

/-- How far the register is moved. Only the stack pointer ever is. -/
def shift (r : Register) : Request → Int
  | .incrementSp => if r = .sp then 1 else 0
  | .decrementSp => if r = .sp then -1 else 0
  | _            => 0

/-- Why a request is refused. -/
inductive Refused (q : Request) : Register.Fault → Prop where
  | restricted {r : Register} (h : q.asks r = true) (hr : r = .pc ∨ r = .sp) :
      Refused q (.restricted r)
  | unknown {name : String} (h : q.name? = some name) (hn : ∀ r : Register, ¬ r.IsNamed name) :
      Refused q (.unknown name)

end Request

section

variable (r : Register) (requests : List Request)

/-- The last value that was written to the register, or 0. -/
def lastWritten : UInt32 := (requests.filterMap (Request.written? r)).getLast?.getD 0

/-- How far the register was moved since it was last written. -/
def drift : Int :=
  ((requests.rtakeWhile fun q => (q.written? r).isNone).map (Request.shift r)).sum

end

/-! ### Refusals -/

section

variable {f : RegisterFile} {q : Request} {r : Register} {name : String} {fault : Register.Fault}

/-- Access by name is access to the register of that name. -/
theorem guards_serve (f : RegisterFile) (h : q.asks r = true) : Guards [r] (f.serve q) := by
  cases q with
  | read r' =>
    obtain rfl : r' = r := of_decide_eq_true h
    exact (f.guards_read r').bind fun a => guards_ok (some a, f)
  | write r' value =>
    obtain rfl : r' = r := of_decide_eq_true h
    exact (f.guards_write r' value).bind fun f' => guards_ok (none, f')
  | readNamed name =>
    have hname := Register.ofName?_eq_ok_iff.2 (of_decide_eq_true h)
    rw [serve, readNamed, hname]
    exact (f.guards_read r).bind fun a => guards_ok (some a, f)
  | writeNamed name value =>
    have hname := Register.ofName?_eq_ok_iff.2 (of_decide_eq_true h)
    rw [serve, writeNamed, hname]
    exact (f.guards_write r value).bind fun f' => guards_ok (none, f')
  | _ => cases h

theorem serve_of_unknown (f : RegisterFile) (h : q.name? = some name)
    (hn : ∀ r : Register, ¬ r.IsNamed name) : f.serve q = .error (.unknown name) := by
  have hname := Register.ofName?_eq_error_iff.2 ⟨hn, rfl⟩
  cases q with
  | readNamed name' =>
    obtain rfl : name' = name := Option.some.inj h
    rw [serve, readNamed, hname]
    rfl
  | writeNamed name' value =>
    obtain rfl : name' = name := Option.some.inj h
    rw [serve, writeNamed, hname]
    rfl
  | _ => cases h

/-- A request that asks for no register by name or by itself is not refused. -/
theorem serve_of_not_asks (f : RegisterFile) (h : ∀ r, q.asks r = false) (hname : q.name? = none) :
    ∃ reply, f.serve q = .ok reply := by
  cases q with
  | read r | write r value => exact absurd (h r) (by simp [Request.asks])
  | readNamed name | writeNamed name value => cases hname
  | _ => exact ⟨_, rfl⟩

theorem not_isNamed_of_not_asks (h : ∀ r, q.asks r = false) (hname : q.name? = some name)
    (r : Register) : ¬ r.IsNamed name := by
  have hr := h r
  cases q with
  | readNamed name' | writeNamed name' value =>
    obtain rfl : name' = name := Option.some.inj hname
    exact of_decide_eq_false hr
  | _ => cases hname

/-- A request fails just with the fault that it is refused with. -/
theorem serve_eq_error_iff : f.serve q = .error fault ↔ q.Refused fault := by
  constructor
  · intro h
    by_cases hasks : ∃ r, q.asks r = true
    · obtain ⟨r, hr⟩ := hasks
      obtain ⟨hrestricted, rfl⟩ := (guards_serve f hr).eq_error_iff.1 h
      exact .restricted hr hrestricted
    · have hnone (r : Register) : q.asks r = false :=
        Bool.eq_false_iff.2 fun hr => hasks ⟨r, hr⟩
      cases hname : q.name? with
      | some name =>
        have hn := not_isNamed_of_not_asks hnone hname
        rw [serve_of_unknown f hname hn] at h
        obtain rfl := Except.error.inj h
        exact .unknown hname hn
      | none =>
        obtain ⟨reply, hok⟩ := serve_of_not_asks f hnone hname
        cases hok.symm.trans h
  · rintro (⟨h, hr⟩ | ⟨h, hn⟩)
    · exact (guards_serve f h).eq_error_iff.2 ⟨hr, rfl⟩
    · exact serve_of_unknown f h hn

theorem behind_of_refused (h : f.serve q = .error fault) : f.behind q = f := by
  rw [behind, h]

theorem exists_ok_iff_of_asks (f : RegisterFile) (h : q.asks r = true) :
    (∃ reply, f.serve q = .ok reply) ↔ r.isRestricted = false := by
  have hguards := guards_serve f h
  cases hr : r.isRestricted with
  | true => simp [hguards.refused (List.find?_cons_of_pos hr)]
  | false => simp [hguards.granted (List.find?_cons_of_neg (by simp [hr]))]

theorem written?_of_asks (h : q.asks r = true) :
    q.written? r = if r.isRestricted = false then q.value? else none := by
  cases q with
  | setPc value | setSp value => cases h
  | _ => simp only [Request.written?, h, true_and]

/-- A value is written by a request that is for the register, has a value and is not refused. -/
theorem written?_eq_some_iff (f : RegisterFile) {value : UInt32} : q.written? r = some value ↔
    q.isFor r = true ∧ q.value? = some value ∧ ∃ reply, f.serve q = .ok reply := by
  by_cases hasks : q.asks r = true
  · have hfor : q.isFor r = true := by
      cases q with
      | read r' | write r' value | readNamed name | writeNamed name value => exact hasks
      | _ => cases hasks
    rw [written?_of_asks hasks, exists_ok_iff_of_asks f hasks]
    cases r.isRestricted <;> simp [hfor]
  · cases q with
    | setPc value' | setSp value' =>
      simp [Request.written?, Request.isFor, Request.value?, serve]
    | _ => simp [Request.written?, Request.isFor, Request.value?, *]

end

/-! ### What registers hold behind a request -/

section

variable (f : RegisterFile) (r : Register) (q : Request)

theorem held_lt : (f.held r).toNat < r.capacity := by
  cases r with
  | index => exact f.index.toNat_lt
  | pc => exact f.pc.toNat_lt
  | _ =>
    rw [held, UInt8.toNat_toUInt16]
    exact UInt8.toNat_lt _

/-- A write leaves what fits of its value in its register, unless that is restricted. -/
theorem held_behind_write (r' : Register) (value : UInt32) :
    ((f.behind (.write r' value)).held r).toNat =
      if r' = r ∧ r.isRestricted = false then value.toNat % r.capacity else (f.held r).toNat := by
  cases r' with
  | general x =>
    rw [show f.behind (.write (.general x) value) = f.set x value.toUInt8 from rfl]
    by_cases h : r = .general x
    · rw [h, if_pos ⟨rfl, rfl⟩, held_set_self]
      simp [Register.capacity]
    · rw [if_neg fun hr => h hr.1.symm, held_set_of_ne _ h]
  | pc | sp => cases r <;> rfl
  | index | delay | sound =>
    cases r <;> simp [behind, serve, write, held, get, Register.capacity, Register.isRestricted]

theorem behind_writeNamed {r' : Register} {name : String} (h : r'.IsNamed name) (value : UInt32) :
    f.behind (.writeNamed name value) = f.behind (.write r' value) := by
  rw [behind, serve, writeNamed, Register.ofName?_eq_ok_iff.2 h]
  rfl

theorem written?_write (r' : Register) (value : UInt32) : (Request.write r' value).written? r =
    if r' = r ∧ r.isRestricted = false then some value else none :=
  if_congr (and_congr_left' decide_eq_true_iff) rfl rfl

theorem written?_writeNamed {r' : Register} {name : String} (h : r'.IsNamed name)
    (value : UInt32) : (Request.writeNamed name value).written? r =
      (Request.write r' value).written? r := by
  have hiff : r.IsNamed name ↔ r' = r := ⟨fun hr => h.unique hr, fun hr => hr ▸ h⟩
  rw [written?_write]
  exact if_congr (and_congr_left' (decide_eq_true_iff.trans hiff)) rfl rfl

variable {f r q}

/-- A register that is written keeps the low bits of the value. -/
theorem held_behind_of_written {value : UInt32} (h : q.written? r = some value) :
    ((f.behind q).held r).toNat = value.toNat % r.capacity := by
  obtain ⟨hfor, hvalue, hok⟩ := (written?_eq_some_iff f).1 h
  cases q with
  | write r' value' =>
    obtain rfl : r' = r := of_decide_eq_true hfor
    obtain rfl : value' = value := Option.some.inj hvalue
    have hfree := (exists_ok_iff_of_asks (q := .write r' value') f hfor).1 hok
    rw [held_behind_write, if_pos ⟨rfl, hfree⟩]
  | writeNamed name value' =>
    obtain rfl : value' = value := Option.some.inj hvalue
    have hfree := (exists_ok_iff_of_asks (q := .writeNamed name value') f hfor).1 hok
    rw [behind_writeNamed f (of_decide_eq_true hfor), held_behind_write, if_pos ⟨rfl, hfree⟩]
  | setPc value' =>
    obtain rfl : r = .pc := of_decide_eq_true hfor
    obtain rfl : value' = value := Option.some.inj hvalue
    exact value'.toNat_toUInt16
  | setSp value' =>
    obtain rfl : r = .sp := of_decide_eq_true hfor
    obtain rfl : value' = value := Option.some.inj hvalue
    exact (UInt8.toNat_toUInt16 _).trans value'.toNat_toUInt8
  | _ => cases hvalue

/-- A register that is neither written nor moved keeps what it held. -/
theorem held_behind_of_untouched (h : q.written? r = none) (hs : q.shift r = 0) :
    (f.behind q).held r = f.held r := by
  have hwrite (r' : Register) (value : UInt32) (h : (Request.write r' value).written? r = none) :
      (f.behind (.write r' value)).held r = f.held r := by
    rw [written?_write, ite_eq_right_iff] at h
    rw [← UInt16.toNat_inj, held_behind_write, if_neg fun hr => nomatch h hr]
  cases q with
  | read r' =>
    rw [behind, serve]
    cases f.read r' <;> rfl
  | readNamed name =>
    rw [behind, serve]
    cases f.readNamed name <;> rfl
  | write r' value => exact hwrite r' value h
  | writeNamed name value =>
    by_cases hname : ∃ r' : Register, r'.IsNamed name
    · obtain ⟨r', hr'⟩ := hname
      rw [written?_writeNamed r hr'] at h
      rw [behind_writeNamed f hr', hwrite r' value h]
    · rw [behind_of_refused (serve_of_unknown f rfl fun r' hr' => hname ⟨r', hr'⟩)]
  | pc | sp => rfl
  | setPc value =>
    cases r with
    | pc => cases h
    | _ => rfl
  | setSp value =>
    cases r with
    | sp => cases h
    | _ => rfl
  | incrementSp | decrementSp =>
    cases r with
    | sp => exact absurd hs (by decide)
    | _ => rfl

/-- The stack pointer goes around. -/
theorem held_behind_of_moved (hs : q.shift r ≠ 0) :
    (((f.behind q).held r).toNat : Int) = ((f.held r).toNat + q.shift r) % r.capacity := by
  cases q with
  | incrementSp =>
    cases r with
    | sp =>
      rw [show (f.behind .incrementSp).held .sp = (f.sp + 1).toUInt16 from rfl, held,
        UInt8.toNat_toUInt16, UInt8.toNat_toUInt16, UInt8.toNat_add, UInt8.toNat_one]
      rfl
    | _ => exact absurd rfl hs
  | decrementSp =>
    cases r with
    | sp =>
      rw [show (f.behind .decrementSp).held .sp = (f.sp - 1).toUInt16 from rfl, held,
        UInt8.toNat_toUInt16, UInt8.toNat_toUInt16, UInt8.toNat_sub, UInt8.toNat_one,
        show Request.decrementSp.shift .sp = -1 from rfl,
        show Register.sp.capacity = 0x100 from rfl]
      omega
    | _ => exact absurd rfl hs
  | _ => exact absurd rfl hs

/-- A register that is not written moves on from what it held. -/
theorem held_behind_of_not_written (h : q.written? r = none) :
    (((f.behind q).held r).toNat : Int) = ((f.held r).toNat + q.shift r) % r.capacity := by
  by_cases hs : q.shift r = 0
  · have hlt : ((f.held r).toNat : Int) < r.capacity := Int.ofNat_lt.2 (f.held_lt r)
    rw [held_behind_of_untouched h hs, hs, Int.add_zero,
      Int.emod_eq_of_lt (Int.natCast_nonneg _) hlt]
  · exact held_behind_of_moved hs

end

/-! ### Histories -/

section

variable (f : RegisterFile) (q : Request) (requests : List Request) (r : Register)

theorem serveAll_concat : f.serveAll (requests ++ [q]) = (f.serveAll requests).behind q := by
  rw [serveAll, List.foldl_append, List.foldl_cons, List.foldl_nil, serveAll]

theorem held_zero : zero.held r = 0 := by
  cases r with
  | general x =>
    have hget : zero.get x = 0 := Vector.getElem_replicate x.isLt
    rw [held, hget]
    rfl
  | _ => rfl

theorem lastWritten_concat :
    lastWritten r (requests ++ [q]) = (q.written? r).getD (lastWritten r requests) := by
  cases h : q.written? r <;> simp [lastWritten, List.filterMap_append, h]

theorem drift_concat : drift r (requests ++ [q]) =
    if (q.written? r).isNone then drift r requests + q.shift r else 0 := by
  rw [drift, List.rtakeWhile_concat]
  split
  · rw [List.map_append, List.sum_append, drift, List.map_singleton, List.sum_singleton]
  · rfl

/-- A register holds what was written to it last, moved by the steps since. -/
theorem held_serveAll_zero : (((zero.serveAll requests).held r).toNat : Int) =
    ((lastWritten r requests).toNat + drift r requests) % r.capacity := by
  induction requests using List.reverseRecOn with
  | nil =>
    rw [serveAll, List.foldl_nil, held_zero]
    rfl
  | append_singleton requests q ih =>
    rw [serveAll_concat, lastWritten_concat, drift_concat]
    cases hw : q.written? r with
    | some value =>
      rw [held_behind_of_written hw, Option.getD_some, Option.isNone_some, if_neg nofun,
        Int.add_zero]
      rfl
    | none =>
      rw [held_behind_of_not_written hw, ih, Int.emod_add_emod, Int.add_assoc]
      rfl

theorem isFor_of_moved {q : Request} {r : Register} (hs : q.shift r ≠ 0) :
    r = .sp ∧ q.isFor r = true := by
  cases q with
  | incrementSp | decrementSp =>
    have hr : r = .sp := by simpa [Request.shift] using hs
    exact ⟨hr, decide_eq_true hr⟩
  | _ => exact absurd rfl hs

theorem drift_of_ne (h : r ≠ .sp) : drift r requests = 0 := by
  refine List.sum_eq_zero fun k hk => ?_
  obtain ⟨q, -, rfl⟩ := List.mem_map.1 hk
  by_contra hs
  exact h (isFor_of_moved hs).1

/-- What is asked of other registers makes no difference. -/
theorem held_serveAll_filter : (f.serveAll (requests.filter (Request.isFor r))).held r =
    (f.serveAll requests).held r := by
  induction requests using List.reverseRecOn with
  | nil => rfl
  | append_singleton requests q ih =>
    rw [List.filter_append, List.filter_cons, List.filter_nil, serveAll_concat]
    cases hfor : q.isFor r with
    | true =>
      rw [if_pos rfl, serveAll_concat, ← UInt16.toNat_inj]
      cases hw : q.written? r with
      | some value => rw [held_behind_of_written hw, held_behind_of_written hw]
      | none =>
        rw [← Int.natCast_inj, held_behind_of_not_written hw, held_behind_of_not_written hw, ih]
    | false =>
      have hw : q.written? r = none := by
        rw [Option.eq_none_iff_forall_ne_some]
        intro value hvalue
        cases hfor.symm.trans ((written?_eq_some_iff f).1 hvalue).1
      have hs : q.shift r = 0 := by
        by_contra hs
        cases hfor.symm.trans (isFor_of_moved hs).2
      rw [if_neg nofun, List.append_nil, ih, held_behind_of_untouched hw hs]

end

/-- The registers of a file are independent, whichever requests were made of it from the beginning,
in any order, and whether they were granted or refused. A register holds the last value that was
written to it, or 0, with as many low bits as it has. Only the stack pointer is moved on from there,
by the steps since, and goes around. A register would hold the same if nothing had been asked of
any other, and keeping the general ones in one array, each at its place, answers the same. Access by
register or by name is refused for the program counter and the stack pointer, and for a name that no
register has, which is handed back as it was. A refusal leaves the whole file as it was. Only the
case of ASCII letters is ignored in a name: what is found is the register whose name is the text in
capitals. -/
theorem registers_are_independent (requests : List Request) :
    let f := zero.serveAll requests
    (∀ r, ((f.held r).toNat : Int) =
      ((lastWritten r requests).toNat + drift r requests) % r.capacity) ∧
    (∀ r, r ≠ .sp → (f.held r).toNat = (lastWritten r requests).toNat % r.capacity) ∧
    (∀ r, (zero.serveAll (requests.filter (Request.isFor r))).held r = f.held r) ∧
    (∀ r, r ≠ .pc ∧ r ≠ .sp → f.read r = .ok (f.held r)) ∧
    f.pc = f.held .pc ∧ f.sp.toUInt16 = f.held .sp ∧
    (∀ q, (Checked.Registers.ofFile f).serve? q =
      some ((f.serve q).map fun reply => (reply.1, Checked.Registers.ofFile reply.2))) ∧
    (∀ q r value, q.written? r = some value ↔
      q.isFor r = true ∧ q.value? = some value ∧ ∃ reply, f.serve q = .ok reply) ∧
    (∀ q fault, f.serve q = .error fault ↔ q.Refused fault) ∧
    (∀ q fault, f.serve q = .error fault → f.behind q = f) ∧
    (∀ text r, Register.ofName? text = .ok r ↔ r.IsNamed text) ∧
    (∀ text r, Register.ofName? text = .ok r → r.name = text.toUpper) := by
  intro f
  refine ⟨held_serveAll_zero requests, ?_, held_serveAll_filter zero requests, ?_, rfl, rfl,
    Checked.Registers.serve?_ofFile f, ?_, ?_, ?_, ?_, ?_⟩
  · intro r hr
    have hheld := held_serveAll_zero requests r
    rw [drift_of_ne requests r hr, Int.add_zero] at hheld
    exact_mod_cast hheld
  · intro r hr
    exact f.read_eq_ok (Register.isRestricted_eq_false hr)
  · intro q r value
    exact written?_eq_some_iff f
  · intro q fault
    exact serve_eq_error_iff
  · intro q fault
    exact behind_of_refused
  · intro text r
    exact Register.ofName?_eq_ok_iff
  · intro text r h
    exact Register.isNamed_iff.1 (Register.ofName?_eq_ok_iff.1 h)

/-- The stack pointer takes no value by name, so it goes on from the one that was set. -/
example : (zero.serveAll [.setSp 0x1FF, .writeNamed "sp" 7, .incrementSp]).held .sp = 0 := by
  decide +kernel

end RegisterFile

end ChipEight
