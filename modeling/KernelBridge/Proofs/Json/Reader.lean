import KernelBridge.Json.Reader
import KernelBridge.Proofs.Json.Grammar

/-!
# Readers that overlook no fault

A reader looks at every part of a node before it gives a value, if only to pass over what it has no
use for. So what is read was well formed, and a text that is read is a writing of a tree.

## Main definitions

* `Json.IsThorough` — the reader gives values only for nodes that can be passed over

## Main results

* `Json.isThorough_readString`, `Json.isThorough_readChoice`, `Json.isThorough_readList` and others
  — the readers are thorough
* `Json.Members.skip_of_fold`, `Json.Elements.skip_of_demand`, `Json.Elements.skip_of_finish` —
  and so are those that are put together from their steps
* `Json.read_eq_ok_iff` — the texts from which a value is read
-/

namespace KernelBridge.Json

open FirstFault

/-- The reader gives values only for nodes that can be passed over. -/
def IsThorough {α : Type} (reader : Node → Reading α) : Prop :=
  ∀ ⦃node value⦄, reader node = .ok value → node.skip = .ok ()

variable {α σ : Type}

/-! ### Simple values -/

section Simple

theorem wrongType_ne_ok {expected : String} {node : Node} {value : α} :
    wrongType expected node ≠ .ok value := by
  cases node with
  | number numeral =>
    cases hread : numeral.read <;>
      simp [wrongType, hread, Reading.reject, bind, Except.bind]
  | string token =>
    cases hread : token.read <;>
      simp [wrongType, hread, Reading.reject, bind, Except.bind]
  | _ => simp [wrongType, Reading.reject, Reading.fail]

/-- Only a string that does not break has characters. -/
theorem eq_none_of_joinPieces {pieces : List Piece} {fault : Option Fault} {text : List Char}
    (h : joinPieces pieces fault = .ok text) : fault = none := by
  fun_induction joinPieces pieces fault generalizing text
  case case1 | case6 => rfl
  case case3 ih | case9 ih | case11 ih | case13 ih =>
    obtain ⟨more, hmore, -⟩ := bind_eq_ok_iff.mp h
    exact ih hmore
  all_goals cases h

theorem StringToken.fault_eq_none {token : StringToken} {text : String}
    (h : token.read = .ok text) : token.fault = none := by
  rw [StringToken.read, mapError_eq_ok_iff, StringToken.text] at h
  cases hjoin : joinPieces token.pieces token.fault with
  | error fault =>
    rw [hjoin] at h
    cases h
  | ok text => exact eq_none_of_joinPieces hjoin

theorem isThorough_readString : IsThorough readString := by
  intro node value
  fun_cases readString node
  · next token => exact fun h => by simp [Node.skip, token.fault_eq_none h]
  · exact fun h => (wrongType_ne_ok h).elim

theorem isThorough_readBool : IsThorough readBool := by
  intro node value
  fun_cases readBool node
  · exact fun _ => rfl
  · exact fun h => (wrongType_ne_ok h).elim

theorem isThorough_readUnit : IsThorough readUnit := by
  intro node value
  fun_cases readUnit node
  · exact fun _ => rfl
  · exact fun h => (wrongType_ne_ok h).elim

theorem isThorough_readU32 : IsThorough readU32 := by
  intro node value
  fun_cases readU32 node
  · exact fun _ => rfl
  · exact fun h => (wrongType_ne_ok h).elim

theorem isThorough_readOption {reader : Node → Reading α} (hreader : IsThorough reader) :
    IsThorough (readOption reader) := by
  intro node value
  fun_cases readOption reader node
  · exact fun _ => rfl
  · intro h
    obtain ⟨found, hfound, -⟩ := bind_eq_ok_iff.mp h
    exact hreader hfound

theorem isThorough_readChoice {choices : List (String × α)} :
    IsThorough (readChoice choices) := by
  intro node value
  fun_cases readChoice choices node
  all_goals intro h
  case case2 token =>
    obtain ⟨name, hname, -⟩ := bind_eq_ok_iff.mp h
    simp [Node.skip, token.fault_eq_none hname]
  case case3 key value rest =>
    obtain ⟨name, hname, h⟩ := bind_eq_ok_iff.mp h
    obtain ⟨choice, -, h⟩ := bind_eq_ok_iff.mp h
    obtain ⟨_, hvalue, h⟩ := bind_eq_ok_iff.mp h
    rw [Node.skip, Members.skip_next_eq_ok_iff]
    refine ⟨key.fault_eq_none hname, isThorough_readUnit hvalue, ?_⟩
    cases rest with
    | closed => rfl
    | _ => cases h
  all_goals cases h

end Simple

/-! ### Lists -/

section Elements

variable {reader : Node → Reading α} {elements rest : Elements}

theorem Elements.skip_of_collect (hreader : IsThorough reader) {values : List α}
    (h : elements.collect reader = .ok values) : elements.skip = .ok () := by
  fun_induction Elements.collect reader elements generalizing values with
  | case1 => rfl
  | case2 => cases h
  | case3 value rest ih =>
    obtain ⟨first, hfirst, h⟩ := bind_eq_ok_iff.mp h
    obtain ⟨more, hmore, -⟩ := bind_eq_ok_iff.mp h
    exact Elements.skip_next_eq_ok_iff.mpr ⟨hreader hfirst, ih hmore⟩

theorem isThorough_readList (hreader : IsThorough reader) : IsThorough (readList reader) := by
  intro node values
  fun_cases readList reader node
  · exact fun h => Elements.skip_of_collect hreader h
  · exact fun h => (wrongType_ne_ok h).elim

/-- What is left of a record behind an element decides whether all of it can be passed over. -/
theorem Elements.skip_of_take (hreader : IsThorough reader) {value : Option α}
    (h : elements.take reader = .ok (value, rest)) (hrest : rest.skip = .ok ()) :
    elements.skip = .ok () := by
  cases elements with
  | closed => rfl
  | missing => cases h
  | next node others =>
    obtain ⟨first, hfirst, h⟩ := bind_eq_ok_iff.mp h
    cases h
    exact Elements.skip_next_eq_ok_iff.mpr ⟨hreader hfirst, hrest⟩

theorem Elements.skip_of_demand (hreader : IsThorough reader) {tooShort : Mismatch} {value : α}
    (h : elements.demand reader tooShort = .ok (value, rest)) (hrest : rest.skip = .ok ()) :
    elements.skip = .ok () := by
  obtain ⟨⟨taken, others⟩, htaken, h⟩ := bind_eq_ok_iff.mp h
  cases taken with
  | none => cases h
  | some taken =>
    cases h
    exact Elements.skip_of_take hreader htaken hrest

theorem Elements.skip_of_finish (h : elements.finish = .ok ()) : elements.skip = .ok () := by
  cases elements with
  | closed => rfl
  | _ => cases h

end Elements

/-! ### Members -/

section Members

theorem Members.skip_of_fold {step : σ → String → Node → Reading σ}
    (hstep : ∀ {state name value next}, step state name value = .ok next → value.skip = .ok ())
    {members : Members} {state last : σ} (h : members.fold step state = .ok last) :
    members.skip = .ok () := by
  fun_induction Members.fold step state members generalizing last with
  | case1 => rfl
  | case2 => cases h
  | case3 => cases h
  | case4 state key value rest ih =>
    obtain ⟨name, hname, h⟩ := bind_eq_ok_iff.mp h
    obtain ⟨next, hnext, h⟩ := bind_eq_ok_iff.mp h
    exact Members.skip_next_eq_ok_iff.mpr ⟨key.fault_eq_none hname, hstep hnext, ih _ h⟩

/-- A field is added iff it stands here for the first time and its value is read. -/
theorem addField_eq_ok_iff {name : String} {seen : Option α} {reader : Node → Reading α}
    {value : Node} {put : Option α → σ} {next : σ} :
    (do return put (← readField name seen reader value)) = Except.ok next ↔
      seen = none ∧ ∃ found, reader value = .ok found ∧ next = put (some found) := by
  cases seen with
  | none =>
    cases hread : reader value <;>
      simp [readField, hread, bind, Except.bind, pure, Except.pure, eq_comm]
  | some => simp [readField, Reading.reject, bind, Except.bind]

theorem skipMember_eq_ok_iff {state next : σ} {value : Node} :
    skipMember state value = .ok next ↔ value.skip = .ok () ∧ next = state := by
  rw [skipMember, then_eq_ok_iff, mapError_eq_ok_iff]
  exact and_congr_right fun _ => ⟨fun h => (Except.ok.inj h).symm, fun h => congrArg _ h.symm⟩

end Members

/-! ### Whole texts -/

/-- A thorough reader reads from a text what it reads from the tree that the text is a writing of,
and nothing from other texts. -/
theorem read_eq_ok_iff {reader : Node → Reading α} (hreader : IsThorough reader) {text : String}
    {value : α} :
    read reader text = .ok value ↔
      ∃ tree : Node, tree.IsWrittenAs text ∧ reader tree = .ok value := by
  constructor
  · intro h
    rw [read] at h
    cases hbuilt : Node.ofTokens (tokens text.toList) with
    | mk tree rest =>
      rw [hbuilt] at h
      obtain ⟨found, hfound, h⟩ := bind_eq_ok_iff.mp h
      split at h
      · next hrest =>
        cases h
        rw [List.isEmpty_iff.mp hrest] at hbuilt
        exact ⟨tree, Node.isWrittenAs_iff.mpr ⟨hbuilt, hreader hfound⟩, hfound⟩
      · cases h
  · rintro ⟨tree, hwritten, hvalue⟩
    rw [read_of_isWrittenAs hwritten, hvalue]

end KernelBridge.Json
