import Mathlib.Data.List.Perm.Basic
import KernelBridge.Proofs.Json.Reader

/-!
# Records in other words

The members of an object may be given in another order, with members of other names among them,
and with other writings of what is inside a field. A reader that takes the fields in independently
of each other reads the same value.

## Main definitions

* `Json.Members.ofPairs` — the members of an object, with any keys
* `Json.RecordEdit`, `Json.ListEdit` — changes of a record, and of one element of a list
* `Json.TakesFields` — the steps of a reader that takes in the fields independently
* `Json.Ignores` — what is read before a change is read after it

## Main results

* `Json.TakesFields.fold_perm`, `Json.TakesFields.fold_insert`, `Json.fold_within` — what one change
  leaves as it is
* `Json.TakesFields.ignores`, `Json.ignores_readList` — records and lists are read as before
* `Json.ReadsPair.of_second` — records of two fields that are written as arrays
-/

namespace KernelBridge.Json

open FirstFault

variable {α σ : Type}

/-- The members of an object, in order, with keys of any writing. -/
def Members.ofPairs : List (StringToken × Node) → Members
  | [] => .closed
  | (key, value) :: rest => .next key value (ofPairs rest)

/-! ### Changes -/

/-- A change of a record with these fields: its members stand in another order, a member of
another name is put in anywhere, or a change is made inside the value of a field. The name of a
member is the text of its key (a key with half a pair of code units in it has none, and is a fault
of the text), and its value is any that has a writing. A record that is written as an array has its
fields in order. -/
inductive RecordEdit (fields : List String) (Inside : String → Node → Node → Prop) :
    Node → Node → Prop where
  -- The order is free, also of members with the same name.
  | permute {members others : List (StringToken × Node)} : members.Perm others →
      RecordEdit fields Inside (.object (.ofPairs members)) (.object (.ofPairs others))
  | insert {before after : List (StringToken × Node)} {key : StringToken} {name : String}
      {value : Node} : key.text = .ok name → name ∉ fields → (∃ text, value.IsWrittenAs text) →
      RecordEdit fields Inside (.object (.ofPairs (before ++ after)))
        (.object (.ofPairs (before ++ (key, value) :: after)))
  -- What may change inside is said for each field.
  | within {before after : List (StringToken × Node)} {key : StringToken} {name : String}
      {value other : Node} : key.text = .ok name → Inside name value other →
      RecordEdit fields Inside (.object (.ofPairs (before ++ (key, value) :: after)))
        (.object (.ofPairs (before ++ (key, other) :: after)))
  | element {before after : List Node} {name : String} {value other : Node} :
      fields[before.length]? = some name → Inside name value other →
      RecordEdit fields Inside (.array (.ofList (before ++ value :: after)))
        (.array (.ofList (before ++ other :: after)))

/-- A change of one element of a list. -/
inductive ListEdit (Edit : Node → Node → Prop) : Node → Node → Prop where
  | element {before after : List Node} {value other : Node} : Edit value other →
      ListEdit Edit (.array (.ofList (before ++ value :: after)))
        (.array (.ofList (before ++ other :: after)))

/-- What the reader gives before a change it gives after it. -/
def Ignores (reader : Node → Reading α) (Edit : Node → Node → Prop) : Prop :=
  ∀ ⦃node other value⦄, Edit node other → reader node = .ok value → reader other = .ok value

/-! ### Members -/

/-- The steps of a reader that takes in these fields independently of each other: what belongs to
none of them is passed over, and two members may change places. -/
structure TakesFields (fields : List String) (step : σ → String → Node → Reading σ) : Prop where
  thorough : ∀ {state name value next}, step state name value = .ok next → value.skip = .ok ()
  unknown : ∀ {state name value}, name ∉ fields → value.skip = .ok () →
    step state name value = .ok state
  swap : ∀ {state next last name value name' value'}, step state name value = .ok next →
    step next name' value' = .ok last →
      ∃ between, step state name' value' = .ok between ∧ step between name value = .ok last

section Fold

variable {fields : List String} {step : σ → String → Node → Reading σ} {state last : σ}
  {key : StringToken} {value other : Node} {members others before after : List (StringToken × Node)}

theorem fold_ofPairs_cons_eq_ok_iff :
    (Members.ofPairs ((key, value) :: after)).fold step state = .ok last ↔
      ∃ name next, key.text = .ok name ∧ step state name value = .ok next ∧
        (Members.ofPairs after).fold step next = .ok last := by
  rw [Members.ofPairs, Members.fold, bind_eq_ok_iff]
  simp only [bind_eq_ok_iff, StringToken.read, mapError_eq_ok_iff]
  constructor
  · rintro ⟨name, hname, next, hnext, hlast⟩
    exact ⟨name, next, hname, hnext, hlast⟩
  · rintro ⟨name, next, hname, hnext, hlast⟩
    exact ⟨name, hname, next, hnext, hlast⟩

theorem fold_ofPairs_append_eq_ok_iff :
    (Members.ofPairs (before ++ after)).fold step state = .ok last ↔
      ∃ middle, (Members.ofPairs before).fold step state = .ok middle ∧
        (Members.ofPairs after).fold step middle = .ok last := by
  induction before generalizing state with
  | nil => simp [Members.ofPairs, Members.fold]
  | cons member before ih =>
    obtain ⟨key, value⟩ := member
    rw [List.cons_append, fold_ofPairs_cons_eq_ok_iff]
    simp only [ih, fold_ofPairs_cons_eq_ok_iff]
    constructor
    · rintro ⟨name, next, hname, hnext, middle, hmiddle, hlast⟩
      exact ⟨middle, ⟨name, next, hname, hnext, hmiddle⟩, hlast⟩
    · rintro ⟨middle, ⟨name, next, hname, hnext, hmiddle⟩, hlast⟩
      exact ⟨name, next, hname, hnext, middle, hmiddle, hlast⟩

/-- The members may stand in any order. -/
theorem TakesFields.fold_perm (hstep : TakesFields fields step) (h : members.Perm others)
    (hmembers : (Members.ofPairs members).fold step state = .ok last) :
    (Members.ofPairs others).fold step state = .ok last := by
  -- A permutation is made of exchanges of neighbours.
  induction h generalizing state with
  | nil => exact hmembers
  | cons member _ ih =>
    obtain ⟨name, next, hname, hnext, hlast⟩ := fold_ofPairs_cons_eq_ok_iff.mp hmembers
    exact fold_ofPairs_cons_eq_ok_iff.mpr ⟨name, next, hname, hnext, ih hlast⟩
  | swap first second rest =>
    obtain ⟨name, next, hname, hnext, hmore⟩ := fold_ofPairs_cons_eq_ok_iff.mp hmembers
    obtain ⟨name', next', hname', hnext', hlast⟩ := fold_ofPairs_cons_eq_ok_iff.mp hmore
    obtain ⟨between, hbetween, hswapped⟩ := hstep.swap hnext hnext'
    exact fold_ofPairs_cons_eq_ok_iff.mpr ⟨name', between, hname', hbetween,
      fold_ofPairs_cons_eq_ok_iff.mpr ⟨name, next', hname, hswapped, hlast⟩⟩
  | trans _ _ ih ih' => exact ih' (ih hmembers)

/-- A member of another name may stand anywhere. -/
theorem TakesFields.fold_insert (hstep : TakesFields fields step) {name : String}
    (hkey : key.text = .ok name) (hname : name ∉ fields) (hvalue : value.skip = .ok ())
    (hmembers : (Members.ofPairs (before ++ after)).fold step state = .ok last) :
    (Members.ofPairs (before ++ (key, value) :: after)).fold step state = .ok last := by
  obtain ⟨middle, hbefore, hafter⟩ := fold_ofPairs_append_eq_ok_iff.mp hmembers
  exact fold_ofPairs_append_eq_ok_iff.mpr ⟨middle, hbefore,
    fold_ofPairs_cons_eq_ok_iff.mpr ⟨name, middle, hkey, hstep.unknown hname hvalue, hafter⟩⟩

/-- The value of a member may be replaced by one that is taken in as it is. -/
theorem fold_within {name : String} (hkey : key.text = .ok name)
    (hvalue : ∀ {state next}, step state name value = .ok next → step state name other = .ok next)
    (hmembers : (Members.ofPairs (before ++ (key, value) :: after)).fold step state = .ok last) :
    (Members.ofPairs (before ++ (key, other) :: after)).fold step state = .ok last := by
  obtain ⟨middle, hbefore, hmore⟩ := fold_ofPairs_append_eq_ok_iff.mp hmembers
  obtain ⟨name', next, hkey', hnext, hafter⟩ := fold_ofPairs_cons_eq_ok_iff.mp hmore
  obtain rfl : name = name' := Except.ok.inj (hkey.symm.trans hkey')
  exact fold_ofPairs_append_eq_ok_iff.mpr ⟨middle, hbefore,
    fold_ofPairs_cons_eq_ok_iff.mpr ⟨name, next, hkey, hvalue hnext, hafter⟩⟩

/-- A record that is read from its members is well formed. -/
theorem TakesFields.skip_of_ok (hstep : TakesFields fields step) {members : Members}
    {finish : σ → Reading α} {result : α}
    (hread : members.fold step state >>= finish = .ok result) : members.skip = .ok () := by
  obtain ⟨last, hlast, -⟩ := bind_eq_ok_iff.mp hread
  exact Members.skip_of_fold hstep.thorough hlast

end Fold

/-! ### Records and lists -/

section Ignores

variable {fields : List String} {Inside : String → Node → Node → Prop}
  {step : σ → String → Node → Reading σ} {reader : Node → Reading α}

/-- A record is read as before a change if its fields are. -/
theorem TakesFields.ignores (hstep : TakesFields fields step) {init : σ} {finish : σ → Reading α}
    (hobject : ∀ members, reader (.object members) = members.fold step init >>= finish)
    (hwithin : ∀ {name value other}, Inside name value other →
      ∀ {state next}, step state name value = .ok next → step state name other = .ok next)
    (harray : ∀ {before : List Node} {name value other} {after : List Node} {result},
      fields[before.length]? = some name → Inside name value other →
        reader (.array (.ofList (before ++ value :: after))) = .ok result →
          reader (.array (.ofList (before ++ other :: after))) = .ok result) :
    Ignores reader (RecordEdit fields Inside) := by
  have hfold {members others : Members} {result : α}
      (h : ∀ {last}, members.fold step init = .ok last → others.fold step init = .ok last)
      (hread : reader (.object members) = .ok result) : reader (.object others) = .ok result := by
    rw [hobject, bind_eq_ok_iff] at hread ⊢
    obtain ⟨last, hlast, hfinish⟩ := hread
    exact ⟨last, h hlast, hfinish⟩
  intro node other result hedit
  cases hedit with
  | permute hperm => exact hfold (hstep.fold_perm hperm)
  | insert hkey hname hvalue =>
    obtain ⟨text, hwritten⟩ := hvalue
    exact hfold (hstep.fold_insert hkey hname (Node.isWrittenAs_iff.mp hwritten).2)
  | within hkey hinside => exact hfold (fold_within hkey (hwithin hinside))
  | element hfield hinside => exact harray hfield hinside

theorem ignores_readList {Edit : Node → Node → Prop} (h : Ignores reader Edit) :
    Ignores (readList reader) (ListEdit Edit) := by
  intro node other values hedit hread
  cases hedit with
  | @element before after value other hvalue =>
    change (Elements.ofList (before ++ value :: after)).collect reader = _ at hread
    change (Elements.ofList (before ++ other :: after)).collect reader = _
    induction before generalizing values with
    | nil =>
      rw [List.nil_append, Elements.ofList, Elements.collect, bind_eq_ok_iff] at hread ⊢
      obtain ⟨first, hfirst, hmore⟩ := hread
      exact ⟨first, h hvalue hfirst, hmore⟩
    | cons node before ih =>
      rw [List.cons_append, Elements.ofList, Elements.collect, bind_eq_ok_iff] at hread ⊢
      obtain ⟨first, hfirst, hmore⟩ := hread
      obtain ⟨more, hcollect, hlist⟩ := bind_eq_ok_iff.mp hmore
      exact ⟨first, hfirst, bind_eq_ok_iff.mpr ⟨more, ih hcollect, hlist⟩⟩

end Ignores

/-! ### Records of two fields -/

section Pair

variable {β γ : Type} {first : Node → Reading β} {second : Node → Reading γ} {make : β → γ → α}
  {reader : Node → Reading α}

/-- Where a record is written as an array, the reader reads two elements and then the end. -/
def ReadsPair (first : Node → Reading β) (second : Node → Reading γ) (make : β → γ → α)
    (reader : Node → Reading α) : Prop :=
  ∃ short short' : Mismatch, ∀ elements : Elements, reader (.array elements) = do
    let (b, rest) ← elements.demand first short
    let (c, rest) ← rest.demand second short'
    rest.finish
    return make b c

theorem ReadsPair.skip_of_ok (h : ReadsPair first second make reader) (hfirst : IsThorough first)
    (hsecond : IsThorough second) {elements : Elements} {result : α}
    (hread : reader (.array elements) = .ok result) : elements.skip = .ok () := by
  obtain ⟨short, short', harray⟩ := h
  rw [harray] at hread
  obtain ⟨⟨b, others⟩, hb, hread⟩ := bind_eq_ok_iff.mp hread
  obtain ⟨⟨c, rest⟩, hc, hread⟩ := bind_eq_ok_iff.mp hread
  obtain ⟨hfinish, -⟩ := then_eq_ok_iff.mp hread
  have hothers := Elements.skip_of_demand hsecond hc (Elements.skip_of_finish hfinish)
  exact Elements.skip_of_demand hfirst hb hothers

theorem demand_next_eq_ok_iff {tooShort : Mismatch} {node : Node} {rest others : Elements} {b : β} :
    (Elements.next node rest).demand first tooShort = .ok (b, others) ↔
      first node = .ok b ∧ others = rest := by
  cases hnode : first node with
  | error => simp [Elements.demand, Elements.take, hnode, bind, Except.bind]
  | ok found =>
    simp [Elements.demand, Elements.take, hnode, bind, Except.bind, pure, Except.pure, eq_comm]

/-- The element of the second field may be replaced by one that is read as it is. -/
theorem ReadsPair.of_second (h : ReadsPair first second make reader) {name name' : String}
    (hne : name ≠ name') {before after : List Node} {value other : Node} {result : α}
    (hfield : [name, name'][before.length]? = some name')
    (hsecond : ∀ {c}, second value = .ok c → second other = .ok c)
    (hread : reader (.array (.ofList (before ++ value :: after))) = .ok result) :
    reader (.array (.ofList (before ++ other :: after))) = .ok result := by
  obtain ⟨node, rfl⟩ : ∃ node, before = [node] := by
    rcases before with - | ⟨node, - | ⟨_, _⟩⟩
    · exact absurd (Option.some.inj hfield) hne
    · exact ⟨node, rfl⟩
    · simp at hfield
  obtain ⟨short, short', harray⟩ := h
  rw [harray, bind_eq_ok_iff] at hread ⊢
  obtain ⟨⟨b, others⟩, hb, hread⟩ := hread
  obtain ⟨hnode, rfl⟩ := demand_next_eq_ok_iff.mp hb
  obtain ⟨⟨c, rest⟩, hc, hread⟩ := bind_eq_ok_iff.mp hread
  obtain ⟨hvalue, rfl⟩ := demand_next_eq_ok_iff.mp hc
  refine ⟨(b, _), demand_next_eq_ok_iff.mpr ⟨hnode, rfl⟩, bind_eq_ok_iff.mpr ⟨(c, _), ?_, hread⟩⟩
  exact demand_next_eq_ok_iff.mpr ⟨hsecond hvalue, rfl⟩

end Pair

end KernelBridge.Json
