import Mathlib.Data.List.TakeDrop
import KernelBridge.CommandLine.Arguments
import KernelBridge.Proofs.FirstFault

/-!
# What arguments say

An accepted list of arguments is taken apart from left to right into options with their values.
Each flag and each value that is found there stands somewhere in the list, and whatever stands
there is found. So an argument that is left out changes what it says, and nothing else.

## Main definitions

* `Asks` — the arguments give an option a value
* `Given.Leads` — the arguments that can follow what has been given, and what is given then

## Main results

* `Request.parseFrom_eq_run_iff` — the lists that are accepted
* `Given.Leads.has_iff`, `Given.Leads.get_iff` — the flags and the values at the end
* `Request.parse_without_check` — the arguments without the flag that asks for a check
-/

namespace KernelBridge.CommandLine

open FirstFault

/-! ### Words -/

/-- The argument that is a flag. -/
def Flag.text : Flag → String
  | flushCache => "--flush-cache"
  | omitDeclarations => "--no-extern-decls"
  | checkOnly => "--check"

namespace Word

variable {argument : String} {flag : Flag} {setting : Setting}

theorem eq_of_splitAssignment_none {text name : List Char}
    (h : splitAssignment text = (name, none)) : text = name := by
  have hparts := List.takeWhile_append_dropWhile (p := (· != '=')) (l := text)
  rw [splitAssignment, List.span_eq_takeWhile_dropWhile] at h
  cases hrest : text.dropWhile (· != '=') with
  | nil =>
    rw [hrest, List.append_nil] at hparts
    rw [hrest] at h
    exact hparts.symm.trans (Prod.mk.inj h).1
  | cons c value =>
    rw [hrest] at h
    cases (Prod.mk.inj h).2

theorem alone_eq_flag_iff {word : Word} {value : Option (List Char)} :
    alone word value = .flag flag ↔ word = .flag flag ∧ value = none := by
  cases value <;> simp [alone]

theorem ofSetting_ne_flag {value : Option (List Char)} : ofSetting setting value ≠ .flag flag := by
  cases value <;> simp [ofSetting]

theorem ofShort_ne_flag {letter : Char} {rest : List Char} : ofShort letter rest ≠ .flag flag := by
  unfold ofShort
  split <;> first | exact ofSetting_ne_flag | simp

theorem ofLong_eq_flag {name : String} {value : Option (List Char)}
    (h : ofLong name value = .flag flag) : "--" ++ name = flag.text ∧ value = none := by
  unfold ofLong at h
  split at h
  case h_4 | h_5 | h_6 =>
    obtain ⟨hflag, rfl⟩ := alone_eq_flag_iff.mp h
    obtain rfl := Word.flag.inj hflag
    exact ⟨rfl, rfl⟩
  case h_7 | h_8 => cases (alone_eq_flag_iff.mp h).1
  case h_9 => cases h
  all_goals exact absurd h ofSetting_ne_flag

/-- An argument is a flag iff it is the flag's text. -/
theorem parse_eq_flag_iff : parse argument = .flag flag ↔ argument = flag.text := by
  constructor
  · intro h
    unfold parse at h
    split at h
    · cases h
    · next text _ htext =>
      cases hsplit : splitAssignment text with
      | mk name value =>
        rw [hsplit] at h
        obtain ⟨hname, rfl⟩ := ofLong_eq_flag h
        obtain rfl := eq_of_splitAssignment_none hsplit
        apply String.toList_injective
        rw [htext, ← hname, String.toList_append, String.toList_ofList, String.toList_ofList]
        rfl
    · exact absurd h ofShort_ne_flag
    · cases h
  · rintro rfl
    cases flag <;> rfl

theorem ne_text_of_parse {word : Word} (h : parse argument = word) (flag : Flag)
    (hword : word ≠ .flag flag) : argument ≠ flag.text := by
  rintro rfl
  exact hword (h.symm.trans (parse_eq_flag_iff.mpr rfl))

/-- Flags differ in their texts. -/
@[simp] theorem text_inj {other : Flag} : flag.text = other.text ↔ flag = other := by
  constructor
  · intro h
    exact Word.flag.inj ((parse_eq_flag_iff.mpr h).symm.trans (parse_eq_flag_iff.mpr rfl)).symm
  · rintro rfl
    rfl

/-- A separate value is no option. -/
theorem parse_of_isSeparateValue (h : isSeparateValue argument = true) :
    parse argument = .unknown := by
  rw [isSeparateValue, Bool.or_eq_true, beq_iff_eq, bne_iff_ne] at h
  rcases h with rfl | hhead
  · rfl
  · unfold parse
    split
    · next htext => simp [htext] at hhead
    · next htext => simp [htext] at hhead
    · next htext => simp [htext] at hhead
    · rfl

theorem ne_text_of_isSeparateValue (h : isSeparateValue argument = true) (flag : Flag) :
    argument ≠ flag.text :=
  ne_text_of_parse (parse_of_isSeparateValue h) flag (by simp)

end Word

/-! ### Options and their values -/

/-- The arguments give the option a value, which is attached to the option or follows it. -/
def Asks (words : List String) (setting : Setting) (value : String) : Prop :=
  (∃ word ∈ words, Word.parse word = .assigned setting value) ∨
    ∃ before word after, words = before ++ word :: value :: after ∧
      Word.parse word = .setting setting

section Asks

variable {word value : String} {words : List String} {setting : Setting}

@[simp] theorem not_asks_nil : ¬ Asks [] setting value := by simp [Asks]

theorem asks_cons_iff : Asks (word :: words) setting value ↔
    Word.parse word = .assigned setting value ∨
      (∃ rest, words = value :: rest ∧ Word.parse word = .setting setting) ∨
      Asks words setting value := by
  constructor
  · rintro (⟨other, hmem, hother⟩ | ⟨before, other, after, hwords, hother⟩)
    · rcases List.mem_cons.mp hmem with rfl | hrest
      · exact .inl hother
      · exact .inr (.inr (.inl ⟨other, hrest, hother⟩))
    · cases before with
      | nil =>
        obtain ⟨rfl, rfl⟩ := List.cons.inj hwords
        exact .inr (.inl ⟨after, rfl, hother⟩)
      | cons first before =>
        obtain ⟨-, rfl⟩ := List.cons.inj hwords
        exact .inr (.inr (.inr ⟨before, other, after, rfl, hother⟩))
  · rintro (hword | ⟨rest, rfl, hword⟩ | ⟨other, hmem, hother⟩ |
      ⟨before, other, after, rfl, hother⟩)
    · exact .inl ⟨word, List.mem_cons_self, hword⟩
    · exact .inr ⟨[], word, rest, rfl, hword⟩
    · exact .inl ⟨other, List.mem_cons_of_mem _ hmem, hother⟩
    · exact .inr ⟨word :: before, other, after, rfl, hother⟩

end Asks

namespace Given

/-- The value that the option has been given. -/
def get (given : Given) : Setting → Option String
  | .signatures => given.signatures
  | .target => given.target
  | .output => given.output

/-- The flag has been given. -/
def has (given : Given) : Flag → Bool
  | .flushCache => given.flushCache
  | .omitDeclarations => given.omitDeclarations
  | .checkOnly => given.checkOnly

/-- The same with a value for the option. -/
def put (given : Given) (setting : Setting) (value : String) : Given :=
  match setting with
  | .signatures => { given with signatures := some value }
  | .target => { given with target := some value }
  | .output => { given with output := some value }

/-- The same with the flag. -/
def raised (given : Given) : Flag → Given
  | .flushCache => { given with flushCache := true }
  | .omitDeclarations => { given with omitDeclarations := true }
  | .checkOnly => { given with checkOnly := true }

/-- The same without the flag that asks for a check. -/
def unchecked (given : Given) : Given := { given with checkOnly := false }

section Steps

variable {given next : Given} {setting : Setting} {flag : Flag} {value : String}

/-- An option is given a value once, and a file has a name. -/
theorem set_eq_ok_iff : given.set setting value = .ok next ↔
    given.get setting = none ∧ (setting = .target ∨ value ≠ "") ∧
      next = given.put setting value := by
  cases setting <;>
  · refine guard_eq_ok_iff.trans ?_
    simp [get, put, and_assoc]

/-- A flag is given once. -/
theorem raise_eq_ok_iff : given.raise flag = .ok next ↔
    given.has flag = false ∧ next = given.raised flag := by
  rw [← Bool.not_eq_true]
  cases flag <;> exact guard_eq_ok_iff

theorem get_put (hfree : given.get setting = none) {other : Setting} {found : String} :
    (given.put setting value).get other = some found ↔
      given.get other = some found ∨ setting = other ∧ value = found := by
  cases setting <;> cases other <;> simp_all [put, get]

@[simp] theorem has_put : (given.put setting value).has flag = given.has flag := by
  cases setting <;> cases flag <;> rfl

@[simp] theorem get_raised : (given.raised flag).get setting = given.get setting := by
  cases flag <;> cases setting <;> rfl

theorem has_raised {other : Flag} :
    (given.raised flag).has other = true ↔ given.has other = true ∨ other = flag := by
  cases flag <;> cases other <;> simp [raised, has]

@[simp] theorem get_unchecked : given.unchecked.get setting = given.get setting := by
  cases setting <;> rfl

theorem has_unchecked (h : flag ≠ .checkOnly) : given.unchecked.has flag = given.has flag := by
  cases flag <;> first | rfl | exact absurd rfl h

theorem unchecked_put :
    (given.put setting value).unchecked = given.unchecked.put setting value := by
  cases setting <;> rfl

theorem unchecked_raised (h : flag ≠ .checkOnly) :
    (given.raised flag).unchecked = given.unchecked.raised flag := by
  cases flag <;> first | rfl | exact absurd rfl h

end Steps

/-- The arguments that can follow what has been given, with what is given after them. -/
inductive Leads : Given → List String → Given → Prop
  | done (given : Given) : Leads given [] given
  | separate {given last : Given} {word value : String} {setting : Setting} {rest : List String}
      (hword : Word.parse word = .setting setting) (hvalue : isSeparateValue value = true)
      (hfree : given.get setting = none) (hnamed : setting = .target ∨ value ≠ "")
      (hrest : Leads (given.put setting value) rest last) : Leads given (word :: value :: rest) last
  | assigned {given last : Given} {word value : String} {setting : Setting} {rest : List String}
      (hword : Word.parse word = .assigned setting value)
      (hfree : given.get setting = none) (hnamed : setting = .target ∨ value ≠ "")
      (hrest : Leads (given.put setting value) rest last) : Leads given (word :: rest) last
  | flag {given last : Given} {flag : Flag} {rest : List String} (hfree : given.has flag = false)
      (hrest : Leads (given.raised flag) rest last) : Leads given (flag.text :: rest) last
  | ending {given : Given} {word : String} (hword : Word.parse word = .ending) :
      Leads given [word] given

end Given

namespace Request

variable {given : Given} {words : List String} {arguments : Arguments}

/-- Each way in which reading goes on is one of the ways to lead on. -/
theorem exists_leads (h : parseFrom given words = .ok (.run arguments)) :
    ∃ last, given.Leads words last ∧ last.finish = .ok (.run arguments) := by
  fun_induction parseFrom given words with
  | case1 given => exact ⟨given, .done given, h⟩
  | case2 given word setting value rest hword hvalue ih =>
    obtain ⟨next, hset, hnext⟩ := bind_eq_ok_iff.mp h
    obtain ⟨hfree, hnamed, rfl⟩ := Given.set_eq_ok_iff.mp hset
    obtain ⟨last, hleads, hlast⟩ := ih _ hnext
    exact ⟨last, .separate hword hvalue hfree hnamed hleads, hlast⟩
  | case4 given word setting value rest hword ih =>
    obtain ⟨next, hset, hnext⟩ := bind_eq_ok_iff.mp h
    obtain ⟨hfree, hnamed, rfl⟩ := Given.set_eq_ok_iff.mp hset
    obtain ⟨last, hleads, hlast⟩ := ih _ hnext
    exact ⟨last, .assigned hword hfree hnamed hleads, hlast⟩
  | case5 given word flag rest hword ih =>
    obtain ⟨next, hraise, hnext⟩ := bind_eq_ok_iff.mp h
    obtain ⟨hfree, rfl⟩ := Given.raise_eq_ok_iff.mp hraise
    obtain ⟨last, hleads, hlast⟩ := ih _ hnext
    obtain rfl := Word.parse_eq_flag_iff.mp hword
    exact ⟨last, .flag hfree hleads, hlast⟩
  | case8 given word hword => exact ⟨given, .ending hword, h⟩
  | case3 | case6 | case7 | case9 => cases h

theorem parseFrom_of_leads {last : Given} (leads : given.Leads words last) :
    parseFrom given words = last.finish := by
  induction leads with
  | done given => rfl
  | separate hword hvalue hfree hnamed hrest ih =>
    have hset := Given.set_eq_ok_iff.mpr ⟨hfree, hnamed, rfl⟩
    simp [parseFrom, hword, hvalue, hset, ih, bind, Except.bind]
  | assigned hword hfree hnamed hrest ih =>
    have hset := Given.set_eq_ok_iff.mpr ⟨hfree, hnamed, rfl⟩
    rw [parseFrom.eq_def]
    simp [hword, hset, ih, bind, Except.bind]
  | @flag given last flag rest hfree hrest ih =>
    have hraise := Given.raise_eq_ok_iff.mpr ⟨hfree, rfl⟩
    rw [parseFrom.eq_def]
    simp [Word.parse_eq_flag_iff.mpr rfl, hraise, ih, bind, Except.bind]
  | ending hword => simp [parseFrom, hword]

/-- The lists that ask for a run, whatever has been given before. -/
theorem parseFrom_eq_run_iff : parseFrom given words = .ok (.run arguments) ↔
    ∃ last, given.Leads words last ∧ last.finish = .ok (.run arguments) :=
  ⟨exists_leads, fun ⟨_, leads, hlast⟩ => (parseFrom_of_leads leads).trans hlast⟩

end Request

namespace Given.Leads

variable {given last : Given} {words : List String}

/-- A flag is given at the end iff it was given before or is one of the arguments. -/
theorem has_iff (leads : given.Leads words last) (flag : Flag) :
    last.has flag = true ↔ given.has flag = true ∨ flag.text ∈ words := by
  induction leads with
  | done given => simp
  | separate hword hvalue hfree hnamed hrest ih =>
    have hother := Word.ne_text_of_parse hword flag (by simp)
    rw [ih, has_put, List.mem_cons, List.mem_cons, or_iff_right hother.symm,
      or_iff_right (Word.ne_text_of_isSeparateValue hvalue flag).symm]
  | assigned hword hfree hnamed hrest ih =>
    have hother := Word.ne_text_of_parse hword flag (by simp)
    rw [ih, has_put, List.mem_cons, or_iff_right hother.symm]
  | flag hfree hrest ih => rw [ih, has_raised, List.mem_cons, Word.text_inj, or_assoc]
  | ending hword =>
    have hother := Word.ne_text_of_parse hword flag (by simp)
    simp [hother.symm]

/-- An option has a value at the end iff it had it before or the arguments give it. -/
theorem get_iff (leads : given.Leads words last) (setting : Setting) (value : String) :
    last.get setting = some value ↔ given.get setting = some value ∨ Asks words setting value := by
  induction leads with
  | done given => simp
  | separate hword hvalue hfree hnamed hrest ih =>
    rw [ih, get_put hfree, asks_cons_iff, asks_cons_iff, hword,
      Word.parse_of_isSeparateValue hvalue]
    simp [or_assoc, and_comm]
  | assigned hword hfree hnamed hrest ih =>
    rw [ih, get_put hfree, asks_cons_iff, hword]
    simp [or_assoc]
  | flag hfree hrest ih =>
    rw [ih, get_raised, asks_cons_iff, Word.parse_eq_flag_iff.mpr rfl]
    simp
  | ending hword => simp [asks_cons_iff, hword]

/-- Without the flag that asks for a check, the arguments lead to the same but for it. -/
theorem unchecked (leads : given.Leads words last) :
    given.unchecked.Leads (words.filter (· != Flag.checkOnly.text)) last.unchecked := by
  have hkeep {word : String} {rest : List String} (h : word ≠ Flag.checkOnly.text) :
      (word :: rest).filter (· != Flag.checkOnly.text) =
        word :: rest.filter (· != Flag.checkOnly.text) :=
    List.filter_cons_of_pos (by simpa using h)
  induction leads with
  | done given => exact .done _
  | separate hword hvalue hfree hnamed hrest ih =>
    rw [hkeep (Word.ne_text_of_parse hword _ (by simp)),
      hkeep (Word.ne_text_of_isSeparateValue hvalue _)]
    exact .separate hword hvalue (by simpa using hfree) hnamed (unchecked_put ▸ ih)
  | assigned hword hfree hnamed hrest ih =>
    rw [hkeep (Word.ne_text_of_parse hword _ (by simp))]
    exact .assigned hword (by simpa using hfree) hnamed (unchecked_put ▸ ih)
  | @flag given last flag rest hfree hrest ih =>
    -- The flag itself is left out, and without it nothing shows that it was raised.
    by_cases hcheck : flag = .checkOnly
    · subst hcheck
      rw [List.filter_cons_of_neg (by simp)]
      exact ih
    · rw [hkeep (by simpa using hcheck)]
      refine .flag ((has_unchecked hcheck).trans hfree) ?_
      rw [← unchecked_raised hcheck]
      exact ih
  | ending hword =>
    rw [hkeep (Word.ne_text_of_parse hword _ (by simp))]
    exact .ending hword

end Given.Leads

/-! ### Requests for runs -/

/-- The run is what the arguments ask for. -/
structure Arguments.IsSaidBy (arguments : Arguments) (words : List String) : Prop where
  signatures : ∀ value, Asks words .signatures value ↔ arguments.signatures = value
  target : ∀ value, Asks words .target value → arguments.target = value
  defaultTarget : (∀ value, ¬ Asks words .target value) → arguments.target = "host"
  output : ∀ path, Asks words .output path ↔ arguments.output = some path
  flushCache : arguments.flushCache = true ↔ Flag.flushCache.text ∈ words
  declareKernels : arguments.declareKernels = true ↔ Flag.omitDeclarations.text ∉ words
  checkOnly : arguments.checkOnly = true ↔ Flag.checkOnly.text ∈ words

namespace Request

variable {words : List String} {arguments : Arguments}

theorem finish_eq_run_iff {last : Given} : last.finish = .ok (.run arguments) ↔
    last.signatures = some arguments.signatures ∧ arguments.target = last.target.getD "host" ∧
      arguments.output = last.output ∧ arguments.flushCache = last.flushCache ∧
      arguments.declareKernels = !last.omitDeclarations ∧ arguments.checkOnly = last.checkOnly := by
  cases arguments
  unfold Given.finish
  cases last.signatures <;> simp [eq_comm]

/-- An accepted list of arguments says what it is taken for. -/
theorem isSaidBy (accepted : parse words = .ok (.run arguments)) : arguments.IsSaidBy words := by
  obtain ⟨last, leads, hlast⟩ := exists_leads accepted
  obtain ⟨hsignatures, htarget, houtput, hflush, hdeclare, hcheck⟩ := finish_eq_run_iff.mp hlast
  have hget (setting : Setting) (value : String) :
      Asks words setting value ↔ last.get setting = some value := by
    rw [leads.get_iff]
    cases setting <;> simp [Given.get]
  have hhas (flag : Flag) : last.has flag = true ↔ flag.text ∈ words := by
    rw [leads.has_iff]
    cases flag <;> simp [Given.has]
  exact {
    signatures := fun value => by
      rw [hget, Given.get, hsignatures, Option.some.injEq]
    target := fun value h => by
      have hvalue : last.target = some value := (hget .target value).mp h
      rw [htarget, hvalue, Option.getD_some]
    defaultTarget := fun h => by
      have hnone : last.target = none :=
        Option.eq_none_iff_forall_ne_some.mpr fun value hvalue =>
          h value ((hget .target value).mpr hvalue)
      rw [htarget, hnone, Option.getD_none]
    output := fun path => by rw [hget, houtput, Given.get]
    flushCache := by rw [← hhas, hflush, Given.has]
    declareKernels := by
      rw [← hhas, hdeclare, Given.has, Bool.not_eq_true', Bool.not_eq_true]
    checkOnly := by rw [← hhas, hcheck, Given.has] }

/-- Without the flag that asks for a check, an accepted list asks for the same run unchecked. -/
theorem parse_without_check (accepted : parse words = .ok (.run arguments)) :
    parse (words.filter (· != Flag.checkOnly.text)) =
      .ok (.run { arguments with checkOnly := false }) := by
  obtain ⟨last, leads, hlast⟩ := exists_leads accepted
  refine (parseFrom_of_leads leads.unchecked).trans ?_
  obtain ⟨hsignatures, htarget, houtput, hflush, hdeclare, -⟩ := finish_eq_run_iff.mp hlast
  exact finish_eq_run_iff.mpr ⟨hsignatures, htarget, houtput, hflush, hdeclare, rfl⟩

end Request

end KernelBridge.CommandLine
