import DailySignals.Proofs.Condition.Acceptance

/-!
# The regular form of conditions

What has been read is regular: its names are their own spellings, although a
known name may have been written in any case, its values have no blanks at their
ends, and its lists are not empty.
-/

set_option autoImplicit false

namespace DailySignals

open Text Scanner Grammar

namespace Grammar

instance (token : Token) : Decidable (IsName token) :=
  decidable_of_iff (token ≠ [] ∧ token.all isNameChar = true)
    ⟨fun name => ⟨name.1, List.all_eq_true.mp name.2⟩,
      fun name => ⟨name.nonempty, List.all_eq_true.mpr name.chars⟩⟩

theorem IsName.isValue {token : Token} (isName : IsName token) : IsValue token where
  nonempty := isName.nonempty
  chars c member := isValueChar_of_isNameChar (isName.chars c member)
  starts c head := isBlank_of_isNameChar (isName.chars c (List.mem_of_mem_head? head))
  ends c last := isBlank_of_isNameChar (isName.chars c (List.mem_of_mem_getLast? last))

theorem trim_of_isName {token : Token} (isName : IsName token) :
    Text.trim (String.ofList token) = String.ofList token := by
  have noBlanks : ∀ c ∈ ([] : List Char), isBlank c = true := nofun
  have trimmed := trimChars_of_isValue isName.isValue noBlanks
  rw [List.append_nil] at trimmed
  rw [Text.trim, String.toList_ofList, trimmed]

section OwnNames

variable {β : Type} {ofName : String → β} {name : β → String}

/-- Something whose name is a name in a condition and leads back to it. -/
def OwnName (ofName : String → β) (name : β → String) (x : β) : Prop :=
  IsName (name x).toList ∧ ofName (name x) = x

instance [DecidableEq β] (ofName : String → β) (name : β → String) (x : β) :
    Decidable (OwnName ofName name x) :=
  inferInstanceAs (Decidable (_ ∧ _))

theorem ownName_of_known_or_kept {known : List β}
    (knownNames : ∀ x ∈ known, OwnName ofName name x) {token : Token} (isName : IsName token)
    (choice : ofName (String.ofList token) ∈ known ∨
      name (ofName (String.ofList token)) = String.ofList token) :
    OwnName ofName name (ofName (String.ofList token)) := by
  rcases choice with member | kept
  · exact knownNames _ member
  · refine ⟨?_, congrArg ofName kept⟩
    rw [kept, String.toList_ofList]
    exact isName

end OwnNames

end Grammar

theorem Field.ownName_ofName {token : Token} (isName : IsName token) :
    OwnName Field.ofName Field.name (Field.ofName (String.ofList token)) := by
  have knownNames : ∀ field ∈ known, OwnName ofName name field := by decide +kernel
  apply ownName_of_known_or_kept knownNames isName
  unfold ofName
  simp only [trim_of_isName isName]
  split
  · next found => exact .inl (List.mem_of_find?_eq_some found)
  · exact .inr rfl

theorem Tag.ownName_ofName {token : Token} (isName : IsName token) :
    OwnName Tag.ofName Tag.name (Tag.ofName (String.ofList token)) := by
  have knownNames : ∀ tag ∈ known, OwnName ofName name tag := by decide +kernel
  apply ownName_of_known_or_kept knownNames isName
  unfold ofName
  simp only [trim_of_isName isName]
  split
  · next found => exact .inl (List.mem_of_find?_eq_some found)
  · exact .inr rfl

theorem Category.ownName_ofName {token : Token} (isName : IsName token) :
    OwnName Category.ofName Category.name (Category.ofName (String.ofList token)) := by
  have knownNames : ∀ kind ∈ [market, industry], OwnName ofName name kind := by decide +kernel
  apply ownName_of_known_or_kept knownNames isName
  unfold ofName
  simp only [trim_of_isName isName]
  split
  · exact .inl (by simp)
  · split
    · exact .inl (by simp)
    · exact .inr rfl

/-! ## What stands in lists -/

namespace Grammar

theorem Separated.nonempty {β : Type} {Item : β → List Token → Prop} {values : List β}
    {tokens : List Token} (items : Separated Item values tokens) : values ≠ [] := by
  cases items with
  | one => nofun
  | more => nofun

theorem Separated.each {β : Type} {Item : β → List Token → Prop} {values : List β}
    {tokens : List Token} (items : Separated Item values tokens) :
    ∀ value ∈ values, ∃ own, Item value own := by
  induction items with
  | one item =>
      intro value member
      rw [List.mem_singleton.mp member]
      exact ⟨_, item⟩
  | more item _ ih =>
      intro value member
      rcases List.mem_cons.mp member with rfl | member
      · exact ⟨_, item⟩
      · exact ih value member

theorem ValueItem.isValue {value : String} {tokens : List Token} (item : ValueItem value tokens) :
    IsValue value.toList := by
  obtain ⟨isValue⟩ := item
  rw [String.toList_ofList]
  exact isValue

theorem Separated.areValues {values : List String} {tokens : List Token}
    (items : Separated ValueItem values tokens) : ∀ value ∈ values, IsValue value.toList := by
  intro value member
  obtain ⟨own, item⟩ := items.each value member
  exact item.isValue

theorem TagItem.ownName {tag : Tag} {tokens : List Token} (item : TagItem tag tokens) :
    OwnName Tag.ofName Tag.name tag := by
  obtain @⟨token, isName⟩ := item
  exact Tag.ownName_ofName isName

section Clauses

variable {ρ β : Type} [DecidableEq ρ] {labels : List (String × ρ)}
  {Item : β → List Token → Prop} {clauses : List (ρ × List β)} {tokens : List Token}

theorem listed_of_clauses (listed : Separated (Clause labels Item) clauses tokens) {label : ρ}
    {value : β} (member : value ∈ listedUnder label clauses) : ∃ own, Item value own := by
  obtain ⟨⟨other, values⟩, clause, inside⟩ := List.mem_flatMap.mp member
  obtain ⟨own, written⟩ := listed.each _ clause
  obtain ⟨_, items⟩ := written
  simp only at inside
  split at inside
  · exact items.each value inside
  · cases inside

/-- Some label of a list of clauses has a value. -/
theorem exists_listed_of_clauses (listed : Separated (Clause labels Item) clauses tokens) :
    ∃ label ∈ labels.map (·.2), listedUnder label clauses ≠ [] := by
  obtain ⟨⟨label, values⟩, clause⟩ := List.exists_mem_of_ne_nil _ listed.nonempty
  obtain ⟨own, written⟩ := listed.each _ clause
  obtain ⟨known, items⟩ := written
  obtain ⟨value, member⟩ := List.exists_mem_of_ne_nil _ items.nonempty
  refine ⟨label, List.mem_map_of_mem known, List.ne_nil_of_mem (a := value) ?_⟩
  exact List.mem_flatMap.mpr ⟨_, clause, by simpa using member⟩

end Clauses

end Grammar

namespace Condition

variable {α : Type}

/-- Names are their own spellings, values are trimmed, and no list that must
have an entry is empty. -/
def IsRegular : Condition α → Prop
  | numeric field _ => OwnName Field.ofName Field.name field
  | category kind values =>
      OwnName Category.ofName Category.name kind ∧ values ≠ [] ∧
        ∀ value ∈ values, IsValue value.toList
  | tags anyOf allOf noneOf =>
      anyOf ++ allOf ++ noneOf ≠ [] ∧
        ∀ tag ∈ anyOf ++ allOf ++ noneOf, OwnName Tag.ofName Tag.name tag
  | symbols admitted refused =>
      admitted ++ refused ≠ [] ∧ ∀ symbol ∈ admitted ++ refused, IsValue symbol.toList

theorem WrittenAs.isRegular [Arithmetic α] {condition : Condition α} {tokens : List Token}
    (written : condition.WrittenAs tokens) : condition.IsRegular := by
  cases written with
  | comparison member isName number => exact Field.ownName_ofName isName
  | between isName lower upper => exact Field.ownName_ofName isName
  | market listed => exact ⟨by decide +kernel, listed.nonempty, listed.areValues⟩
  | industry listed => exact ⟨by decide +kernel, listed.nonempty, listed.areValues⟩
  | category isName listed =>
      exact ⟨Category.ownName_ofName isName, listed.nonempty, listed.areValues⟩
  | tags listed =>
      constructor
      · obtain ⟨label, known, nonempty⟩ := exists_listed_of_clauses listed
        intro empty
        simp only [List.append_eq_nil_iff] at empty
        cases label with
        | anyOf => exact nonempty empty.1.1
        | allOf => exact nonempty empty.1.2
        | noneOf => exact nonempty empty.2
      · intro tag member
        simp only [List.mem_append] at member
        obtain ⟨own, item⟩ : ∃ own, TagItem tag own := by
          rcases member with (member | member) | member
          · exact listed_of_clauses listed member
          · exact listed_of_clauses listed member
          · exact listed_of_clauses listed member
        exact item.ownName
  | symbols listed =>
      constructor
      · obtain ⟨label, known, nonempty⟩ := exists_listed_of_clauses listed
        intro empty
        simp only [List.append_eq_nil_iff] at empty
        cases label with
        | admitted => exact nonempty empty.1
        | refused => exact nonempty empty.2
      · intro symbol member
        simp only [List.mem_append] at member
        obtain ⟨own, item⟩ : ∃ own, ValueItem symbol own := by
          rcases member with member | member
          · exact listed_of_clauses listed member
          · exact listed_of_clauses listed member
        exact item.isValue

end Condition

end DailySignals
