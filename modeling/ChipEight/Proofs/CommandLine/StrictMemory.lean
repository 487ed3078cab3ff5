import ChipEight.CommandLine.Options
import Mathlib.Tactic.Common

/-!
# Command lines with strict memory

Strict memory is a switch like the others: it stands anywhere before a double dash, only once, and
the other arguments mean the same without it. So if a command line with the switch is in order, it
is in order without it, and the options differ in the policy of the memory alone.
-/

namespace ChipEight.Options

theorem bind_eq_ok_iff {ε α β : Type} {e : Except ε α} {f : α → Except ε β} {b : β} :
    (e >>= f) = .ok b ↔ ∃ a, e = .ok a ∧ f a = .ok b := by
  cases e with
  | error fault =>
    constructor
    · rintro ⟨⟩
    · rintro ⟨a, ⟨⟩, -⟩
  | ok a =>
    constructor
    · exact fun h => ⟨a, rfl, h⟩
    · rintro ⟨_, ⟨⟩, h⟩
      exact h

/-! ### What was given -/

namespace Given

variable {g g' : Given}

/-- The same without the switch. -/
def lenient (g : Given) : Given := { g with strictMemory := false }

theorem set_lenient {setting : Setting} {text : String} (h : g.set setting text = .ok g') :
    g.lenient.set setting text = .ok g'.lenient ∧ g'.strictMemory = g.strictMemory := by
  cases setting with
  | path =>
    rw [set] at h ⊢
    split at h
    · cases h
    · obtain ⟨path, hpath, ⟨⟩⟩ := bind_eq_ok_iff.1 h
      rw [if_neg ‹_›]
      exact ⟨bind_eq_ok_iff.2 ⟨path, hpath, rfl⟩, rfl⟩
  | framesPerSecond | stepsPerFrame | maxFrames =>
    obtain ⟨value, hvalue, ⟨⟩⟩ := bind_eq_ok_iff.1 h
    exact ⟨bind_eq_ok_iff.2 ⟨value, hvalue, rfl⟩, rfl⟩

theorem turn_lenient {switch : Switch} (hg : g.strictMemory = true)
    (h : g.turn switch = .ok g') :
    g.lenient.turn switch = .ok g'.lenient ∧ g'.strictMemory = true := by
  cases switch with
  | hexWords | reference =>
    rw [turn] at h ⊢
    split at h
    · cases h
    · cases h
      exact ⟨if_neg ‹_›, hg⟩
  | strictMemory =>
    rw [turn, if_pos hg] at h
    cases h

theorem options_lenient {options : Options} (hg : g.strictMemory = true)
    (h : g.options = .ok options) :
    g.lenient.options = .ok { options with config.policy := .permissive } ∧
      options.config.policy = .strict := by
  rw [Given.options] at h
  cases hpath : g.path with
  | none =>
    rw [hpath] at h
    cases h
  | some path =>
    rw [hpath, hg] at h
    cases h
    have hlenient : g.lenient.path = some path := hpath
    rw [Given.options, hlenient]
    exact ⟨rfl, rfl⟩

end Given

/-! ### Arguments -/

namespace Scan

variable {s s' : Scan} {g : Given}

def lenient (s : Scan) : Scan := { s with given := s.given.lenient }

theorem settle_lenient (h : s.settle = .ok g) :
    s.lenient.settle = .ok g.lenient ∧ g.strictMemory = s.given.strictMemory := by
  obtain ⟨given, seen, _ | ⟨setting, _ | text⟩⟩ := s
  · cases h
    exact ⟨rfl, rfl⟩
  · cases h
  · exact Given.set_lenient h

/-- An argument that is in order behind the switch is so without it, and is read alike. -/
theorem option_lenient {name : Name} {value : Option String} (hs : s.given.strictMemory = true)
    (h : s.option name value = .ok s') :
    s.lenient.option name value = .ok s'.lenient ∧ s'.given.strictMemory = true := by
  obtain ⟨g, hg, h⟩ := bind_eq_ok_iff.1 h
  obtain ⟨hsettle, hstrict⟩ := settle_lenient hg
  rw [hs] at hstrict
  rw [option, hsettle]
  cases name with
  | help | version => cases h
  | setting setting =>
    cases value with
    | none =>
      cases h
      exact ⟨rfl, hstrict⟩
    | some text =>
      obtain ⟨g', hg', ⟨⟩⟩ := bind_eq_ok_iff.1 h
      obtain ⟨hset, hset'⟩ := Given.set_lenient hg'
      refine ⟨?_, hset'.trans hstrict⟩
      exact bind_eq_ok_iff.2 ⟨_, rfl, bind_eq_ok_iff.2 ⟨_, hset, rfl⟩⟩
  | switch switch =>
    obtain ⟨g', hg', ⟨⟩⟩ := bind_eq_ok_iff.1 h
    obtain ⟨hturn, hturn'⟩ := Given.turn_lenient hstrict hg'
    refine ⟨?_, hturn'⟩
    exact bind_eq_ok_iff.2 ⟨_, rfl, bind_eq_ok_iff.2 ⟨_, hturn, rfl⟩⟩

theorem long_lenient {text : List Char} (hs : s.given.strictMemory = true)
    (h : s.long text = .ok s') :
    s.lenient.long text = .ok s'.lenient ∧ s'.given.strictMemory = true := by
  dsimp only [long] at h ⊢
  split at h
  · cases h
  · exact option_lenient hs h
  · exact option_lenient hs h
  · cases h

theorem short_lenient {letter : Char} {rest : List Char} (hs : s.given.strictMemory = true)
    (h : s.short letter rest = .ok s') :
    s.lenient.short letter rest = .ok s'.lenient ∧ s'.given.strictMemory = true := by
  unfold short at h ⊢
  split at h
  · cases h
  all_goals exact option_lenient hs h

theorem word_lenient {trailing : Bool} {text : String} (hs : s.given.strictMemory = true)
    (h : s.word trailing text = .ok s') :
    s.lenient.word trailing text = .ok s'.lenient ∧ s'.given.strictMemory = true := by
  have hwaiting : s.lenient.waiting = s.waiting := rfl
  unfold word at h ⊢
  rw [hwaiting]
  split at h
  · cases h
    exact ⟨rfl, hs⟩
  · split at h
    · cases h
    · obtain ⟨g, hg, ⟨⟩⟩ := bind_eq_ok_iff.1 h
      obtain ⟨hsettle, hstrict⟩ := settle_lenient hg
      exact ⟨(if_neg ‹_›).trans (bind_eq_ok_iff.2 ⟨_, hsettle, rfl⟩), hstrict.trans hs⟩

theorem argument_lenient {text : String} (hs : s.given.strictMemory = true)
    (h : s.argument text = .ok s') :
    s.lenient.argument text = .ok s'.lenient ∧ s'.given.strictMemory = true := by
  unfold argument at h ⊢
  split at h
  · exact long_lenient hs h
  · exact short_lenient hs h
  · exact word_lenient hs h

theorem words_lenient {texts : List String} (hs : s.given.strictMemory = true)
    (h : texts.foldlM (word · true) s = .ok s') :
    texts.foldlM (word · true) s.lenient = .ok s'.lenient ∧ s'.given.strictMemory = true := by
  induction texts generalizing s with
  | nil =>
    cases h
    exact ⟨rfl, hs⟩
  | cons text texts ih =>
    rw [List.foldlM_cons] at h ⊢
    obtain ⟨t, ht, h⟩ := bind_eq_ok_iff.1 h
    obtain ⟨hword, ht⟩ := word_lenient hs ht
    obtain ⟨hwords, hstrict⟩ := ih ht h
    exact ⟨bind_eq_ok_iff.2 ⟨_, hword, hwords⟩, hstrict⟩

theorem arguments_cons {text : String} (h : text ≠ "--") (s : Scan) (rest : List String) :
    s.arguments (text :: rest) = s.argument text >>= fun s => s.arguments rest := by
  rw [arguments]
  exact h

/-- Arguments that are understood behind the switch are understood without it. -/
theorem arguments_lenient {texts : List String} (hs : s.given.strictMemory = true)
    (h : s.arguments texts = .ok s') :
    s.lenient.arguments texts = .ok s'.lenient ∧ s'.given.strictMemory = true := by
  induction texts generalizing s with
  | nil =>
    cases h
    exact ⟨rfl, hs⟩
  | cons text texts ih =>
    by_cases htext : text = "--"
    · subst htext
      exact words_lenient hs h
    · rw [arguments_cons htext] at h ⊢
      obtain ⟨t, ht, h⟩ := bind_eq_ok_iff.1 h
      obtain ⟨hargument, ht⟩ := argument_lenient hs ht
      obtain ⟨harguments, hstrict⟩ := ih ht h
      exact ⟨bind_eq_ok_iff.2 ⟨_, hargument, harguments⟩, hstrict⟩

/-! ### Where the switch stands -/

/-- With what waits judged. -/
def settled (s : Scan) (g : Given) : Scan := { s with given := g, waiting := none }

theorem arguments_append {before : List String} (h : "--" ∉ before) (s : Scan)
    (rest : List String) :
    s.arguments (before ++ rest) = before.foldlM argument s >>= fun s => s.arguments rest := by
  induction before generalizing s with
  | nil => rfl
  | cons text before ih =>
    rw [List.mem_cons, not_or] at h
    rw [List.cons_append, arguments_cons (Ne.symm h.1), List.foldlM_cons, bind_assoc]
    apply bind_congr
    intro t
    exact ih h.2 t

/-- The switch takes effect only once. -/
theorem argument_switch (h : s.argument "--strict-memory" = .ok s') :
    ∃ g, s.settle = .ok g ∧ s'.given.strictMemory = true ∧
      s'.lenient = s.settled g := by
  have hswitch : s.argument "--strict-memory" = s.option (.switch .strictMemory) none := rfl
  rw [hswitch] at h
  obtain ⟨g, hg, h⟩ := bind_eq_ok_iff.1 h
  obtain ⟨g', hg', ⟨⟩⟩ := bind_eq_ok_iff.1 h
  refine ⟨g, hg, ?_⟩
  rw [Given.turn] at hg'
  split at hg'
  · cases hg'
  · cases hg'
    have hlenient : ({ g with strictMemory := true } : Given).lenient = g := by
      rw [Given.lenient, ← Bool.eq_false_iff.2 ‹_›]
    exact ⟨rfl, congrArg s.settled hlenient⟩

section

variable (h : s.settle = .ok g)
include h

theorem option_settled (name : Name) (value : Option String) :
    (s.settled g).option name value = s.option name value := by
  have hsettled : (s.settled g).settle = .ok g := rfl
  rw [option, option, hsettled, h]
  rfl

theorem long_settled (text : List Char) : (s.settled g).long text = s.long text := by
  dsimp only [long]
  split
  · rfl
  · exact option_settled h _ _
  · exact option_settled h _ _
  · rfl

theorem short_settled (letter : Char) (rest : List Char) :
    (s.settled g).short letter rest = s.short letter rest := by
  unfold short
  split
  · rfl
  all_goals exact option_settled h _ _

theorem word_settled (trailing : Bool) (text : String) :
    (s.settled g).word trailing text = s.word trailing text := by
  obtain ⟨given, seen, _ | ⟨setting, _ | value⟩⟩ := s
  · cases h
    rfl
  · cases h
  · unfold word
    rw [h]
    rfl

theorem argument_settled (text : String) : (s.settled g).argument text = s.argument text := by
  unfold argument
  split
  · exact long_settled h _
  · exact short_settled h _ _
  · exact word_settled h false text

/-- What waits to be judged may as well be judged at once, if it is in order. -/
theorem settle_arguments_settled (texts : List String) :
    (s.settled g).arguments texts >>= settle = s.arguments texts >>= settle := by
  cases texts with
  | nil => exact h.symm
  | cons text texts =>
    by_cases htext : text = "--"
    · subst htext
      cases texts with
      | nil => exact h.symm
      | cons text texts =>
        rw [arguments, arguments, List.foldlM_cons, List.foldlM_cons, word_settled h]
    · rw [arguments_cons htext, arguments_cons htext, argument_settled h]

end

end Scan

/-- A command line in order with the switch is in order without it, and asks for the same but for
the policy. -/
theorem ofArguments_without_strictMemory {before after : List String} {options : Options}
    (hbefore : "--" ∉ before)
    (h : ofArguments (before ++ "--strict-memory" :: after) = .ok options) :
    ofArguments (before ++ after) = .ok { options with config.policy := .permissive } ∧
      options.config.policy = .strict := by
  unfold ofArguments at h ⊢
  obtain ⟨final, hfinal, h⟩ := bind_eq_ok_iff.1 h
  obtain ⟨g', hg', h⟩ := bind_eq_ok_iff.1 h
  rw [Scan.arguments_append hbefore] at hfinal
  obtain ⟨s, hs, hfinal⟩ := bind_eq_ok_iff.1 hfinal
  rw [Scan.arguments_cons (by decide)] at hfinal
  obtain ⟨s', hs', hfinal⟩ := bind_eq_ok_iff.1 hfinal
  obtain ⟨g, hg, hstrict, hswitch⟩ := Scan.argument_switch hs'
  obtain ⟨hrest, hstrict⟩ := Scan.arguments_lenient hstrict hfinal
  obtain ⟨hsettle, hstrict'⟩ := Scan.settle_lenient hg'
  obtain ⟨hlenient, hpolicy⟩ := Given.options_lenient (hstrict'.trans hstrict) h
  refine ⟨?_, hpolicy⟩
  have hscan : (s.arguments after >>= Scan.settle) = .ok g'.lenient := by
    rw [← Scan.settle_arguments_settled hg, ← hswitch, hrest]
    exact hsettle
  rw [Scan.arguments_append hbefore, hs]
  change ((s.arguments after >>= fun scan => scan.settle >>= Given.options) : Except _ _) = _
  rw [← bind_assoc, hscan]
  exact hlenient

end ChipEight.Options
