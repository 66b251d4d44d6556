import DailySignals.Condition.Scanner
import DailySignals.Outcome

/-!
# Lists behind commas

A list is read item by item until its closing mark.  It ends because an item
always takes something off the text; each token therefore comes with the law
that what it leaves is shorter.
-/

set_option autoImplicit false

namespace DailySignals

/-- A step that takes at least one character when it succeeds. -/
structure Item (β : Type) where
  read : Step β
  shortens : ∀ {text : List Char} {value : β} {rest : List Char},
    read text = .ok (value, rest) → rest.length < text.length

namespace Scanner

theorem rest_eq_of_pure {ε β : Type} {value result : β} {rest final : List Char}
    (success : (pure (value, rest) : Except ε (β × List Char)) = .ok (result, final)) :
    rest = final :=
  (Prod.mk.inj (pure_eq_ok.mp success)).2

theorem length_dropWhile_le (keep : Char → Bool) (text : List Char) :
    (text.dropWhile keep).length ≤ text.length :=
  (List.dropWhile_suffix keep).length_le

theorem skipBlanks_length (text : List Char) :
    (Text.skipBlanks text).length ≤ text.length :=
  length_dropWhile_le _ text

theorem dropWhile_length_of_takeWhile {keep : Char → Bool} {text : List Char}
    (taken : text.takeWhile keep ≠ []) : (text.dropWhile keep).length < text.length := by
  have parts := congrArg List.length (List.takeWhile_append_dropWhile (p := keep) (l := text))
  have some_taken := List.length_pos_iff.mpr taken
  simp only [List.length_append] at parts
  omega

theorem character_shortens {wanted : Char} {text rest : List Char} {value : Unit}
    (success : character wanted text = .ok (value, rest)) : rest.length < text.length := by
  have skipped := skipBlanks_length text
  unfold character at success
  split at success
  case h_1 c tail found =>
    split at success
    · cases success
      rw [found] at skipped
      simpa using Nat.lt_of_lt_of_le (Nat.lt_succ_self _) skipped
    · cases success
  case h_2 => cases success

theorem identifier_shortens {what : String} {text rest : List Char} {value : String}
    (success : identifier what text = .ok (value, rest)) : rest.length < text.length := by
  have skipped := skipBlanks_length text
  unfold identifier at success
  simp only at success
  split at success
  · cases success
  · next nonempty =>
    cases success
    exact Nat.lt_of_lt_of_le (dropWhile_length_of_takeWhile nonempty) skipped

theorem value_shortens {text rest : List Char} {found : String}
    (success : value text = .ok (found, rest)) : rest.length < text.length := by
  have skipped := skipBlanks_length text
  unfold value at success
  simp only at success
  split at success
  · cases success
  · next nonempty =>
    cases success
    refine Nat.lt_of_lt_of_le (dropWhile_length_of_takeWhile ?_) skipped
    intro empty
    exact nonempty (by rw [empty]; rfl)

theorem spanDigits_length (text : List Char) :
    (Decimal.spanDigits text).1.length + (Decimal.spanDigits text).2.length = text.length := by
  have parts := congrArg List.length
    (List.takeWhile_append_dropWhile (p := Char.isDigit) (l := text))
  rw [List.length_append] at parts
  exact parts

theorem spanDigitsPoint_length (text : List Char) :
    (spanDigitsPoint text).1.length + (spanDigitsPoint text).2.length = text.length := by
  have whole := spanDigits_length text
  unfold spanDigitsPoint
  simp only
  split
  · next afterPoint found =>
    have fraction := spanDigits_length afterPoint
    simp only [found, List.length_cons, List.length_append] at *
    omega
  · exact whole

theorem spanNumber_length (text : List Char) :
    (spanNumber text).1.length + (spanNumber text).2.length = text.length := by
  unfold spanNumber
  split
  · next unsigned =>
    have parts := spanDigitsPoint_length unsigned
    simp only [List.length_cons]
    omega
  · exact spanDigitsPoint_length text

theorem number_shortens {text rest : List Char} {value : Decimal}
    (success : number text = .ok (value, rest)) : rest.length < text.length := by
  have skipped := skipBlanks_length text
  have parts := spanNumber_length (Text.skipBlanks text)
  unfold number at success
  simp only at success
  split at success
  · cases success
  · next digit =>
    split at success
    · cases success
      have taken : (spanNumber (Text.skipBlanks text)).1.length ≠ 0 := by
        intro empty
        rw [List.length_eq_zero_iff] at empty
        simp [empty] at digit
      omega
    · cases success

theorem objectText_shortens {depth : Nat} {within : Within} {text object rest : List Char}
    (found : objectText? depth within text = some (object, rest)) :
    rest.length < text.length := by
  have push_some : ∀ {c : Char} {inner : Option (List Char × List Char)} {pair},
      objectText?.push c inner = some pair → ∃ object, inner = some (object, pair.2) := by
    intro c inner pair pushed
    cases inner with
    | none => simp [objectText?.push] at pushed
    | some value =>
      simp only [objectText?.push, Option.map_some, Option.some.injEq] at pushed
      exact ⟨value.1, by rw [← pushed]⟩
  induction text generalizing depth within object with
  | nil => cases within <;> simp [objectText?] at found
  | cons c tail ih =>
    have step : ∀ {depth within},
        objectText?.push c (objectText? depth within tail) = some (object, rest) →
          rest.length < (c :: tail).length := by
      intro depth within pushed
      obtain ⟨inner, h⟩ := push_some pushed
      exact Nat.lt_succ_of_lt (ih h)
    cases within with
    | escape => exact step found
    | string => exact step found
    | object =>
      simp only [objectText?] at found
      split at found
      · exact step found
      · split at found
        · exact step found
        · split at found
          · split at found
            · cases found
              simp
            · exact step found
          · exact step found

theorem object_shortens {text rest : List Char} {value : String}
    (success : object text = .ok (value, rest)) : rest.length < text.length := by
  have skipped := skipBlanks_length text
  unfold object at success
  split at success
  case h_1 tail found =>
    split at success
    · next h =>
      cases success
      have shorter := objectText_shortens h
      rw [found] at skipped
      exact Nat.lt_of_lt_of_le shorter skipped
    · cases success
  case h_2 => cases success

theorem closing_shortens {text rest : List Char} (found : closing? text = some rest) :
    rest.length < text.length := by
  have skipped := skipBlanks_length text
  unfold closing? at found
  split at found
  case h_1 tail h =>
    cases found
    rw [h] at skipped
    simpa using Nat.lt_of_lt_of_le (Nat.lt_succ_self _) skipped
  case h_2 => cases found

theorem dropStart_length {start text rest : List Char} (found : dropStart? start text = some rest) :
    rest.length + start.length = text.length := by
  induction start generalizing text with
  | nil =>
    cases found
    rfl
  | cons wanted start ih =>
    cases text with
    | nil => cases found
    | cons c text =>
      simp only [dropStart?] at found
      split at found
      · have shorter := ih found
        simp only [List.length_cons]
        omega
      · cases found

theorem keyword_length {word : String} {text rest : List Char}
    (found : keyword? word text = some rest) :
    rest.length + word.toList.length = text.length := by
  unfold keyword? at found
  split at found
  · next h =>
    split at found
    · cases found
    · cases found
      exact dropStart_length h
  · exact dropStart_length found

/-- The further items of a list up to its closing mark, each behind a comma. -/
def furtherItems {β : Type} (close : List Char → Option (List Char)) (item : Item β)
    (text : List Char) : Except Refusal (List β × List Char) :=
  match close text with
  | some rest => .ok ([], rest)
  | none =>
      match _comma : character ',' text with
      | .error refusal => .error refusal
      | .ok ((), afterComma) =>
          match _next : item.read afterComma with
          | .error refusal => .error refusal
          | .ok (value, rest) =>
              match furtherItems close item rest with
              | .error refusal => .error refusal
              | .ok (values, rest) => .ok (value :: values, rest)
termination_by text.length
decreasing_by
  exact Nat.lt_trans (item.shortens _next) (character_shortens _comma)

/-- One or more items up to a closing mark. -/
def itemsUntil {β : Type} (close : List Char → Option (List Char)) (item : Item β) :
    Step (List β) := fun text => do
  let (value, rest) ← item.read text
  let (values, rest) ← furtherItems close item rest
  return (value :: values, rest)

theorem furtherItems_length {β : Type} {close : List Char → Option (List Char)}
    (closes : ∀ {text rest}, close text = some rest → rest.length ≤ text.length)
    (item : Item β) (text : List Char) :
    ∀ {values : List β} {rest : List Char},
      furtherItems close item text = .ok (values, rest) → rest.length ≤ text.length := by
  fun_induction furtherItems close item text with
  | case1 text rest found =>
    intro values final success
    cases success
    exact closes found
  | case2 => intro values final success; cases success
  | case3 => intro values final success; cases success
  | case4 => intro values final success; cases success
  | case5 text closed afterComma comma value rest next values tail recurse ih =>
    intro values final success
    cases success
    have first := character_shortens comma
    have second := item.shortens next
    have third := ih recurse
    omega

theorem itemsUntil_shortens {β : Type} {close : List Char → Option (List Char)}
    (closes : ∀ {text rest}, close text = some rest → rest.length ≤ text.length)
    {item : Item β} {text rest : List Char} {values : List β}
    (success : itemsUntil close item text = .ok (values, rest)) :
    rest.length < text.length := by
  unfold itemsUntil at success
  obtain ⟨⟨value, afterFirst⟩, first, success⟩ := bind_eq_ok.mp success
  obtain ⟨⟨others, afterAll⟩, more, success⟩ := bind_eq_ok.mp success
  cases pure_eq_ok.mp success
  exact Nat.lt_of_le_of_lt (furtherItems_length closes item afterFirst more) (item.shortens first)

/-- One or more items up to the closing parenthesis. -/
def itemsInParentheses {β : Type} (item : Item β) : Step (List β) :=
  itemsUntil closing? item

theorem itemsInParentheses_shortens {β : Type} {item : Item β} {text rest : List Char}
    {values : List β} (success : itemsInParentheses item text = .ok (values, rest)) :
    rest.length < text.length :=
  itemsUntil_shortens (fun found => Nat.le_of_lt (closing_shortens found)) success

end Scanner

end DailySignals
