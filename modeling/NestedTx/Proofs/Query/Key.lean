import NestedTx.Proofs.Json.Scan
import NestedTx.Query.Cached

namespace NestedTx

namespace Json

variable {value value' : Value} {before before' : List Char}

theorem eq_nil_of_colon (finite : Finite value.numbers) (finite' : Finite value'.numbers)
    {more : List Char}
    (same : ':' :: value.chars = more ++ ':' :: value'.chars) : more = [] := by
  cases more with
  | nil => rfl
  | cons c more =>
    have inner : value.chars = more ++ ':' :: value'.chars := (List.cons.inj same).2
    exact absurd inner (Value.chars_ne_append finite finite' more)

theorem before_colon (finite : Finite value.numbers) (finite' : Finite value'.numbers)
    (same : before ++ ':' :: value.chars = before' ++ ':' :: value'.chars) : before = before' := by
  rcases List.append_eq_append_iff.mp same with ⟨more, rfl, rest⟩ | ⟨more, rfl, rest⟩
  · rw [eq_nil_of_colon finite finite' rest, List.append_nil]
  · rw [eq_nil_of_colon finite' finite rest, List.append_nil]

end Json

variable {sql sql' : String} {params params' : List Json.Value}

theorem toList_cacheKey (sql : String) (params : List Json.Value) : (cacheKey sql params).toList =
    "txnest:".toList ++ ((Text.trim sql).toList ++ ':' :: (Json.Value.array params).chars) := by
  simp [cacheKey, Json.Value.render]

theorem cacheKey_inj (finite : Json.Finite (Json.numbersOf params))
    (finite' : Json.Finite (Json.numbersOf params'))
    (same : cacheKey sql params = cacheKey sql' params') :
    Text.trim sql = Text.trim sql' ∧ params = params' := by
  have chars := congrArg String.toList same
  rw [toList_cacheKey, toList_cacheKey] at chars
  replace chars := List.append_cancel_left chars
  have texts : (Text.trim sql).toList = (Text.trim sql').toList := by
    refine Json.before_colon ?_ ?_ chars
    · exact finite
    · exact finite'
  rw [texts] at chars
  have arrays := (List.cons.inj (List.append_cancel_left chars)).2
  obtain ⟨values, _⟩ := Json.Value.chars_append_inj (.array params) (.array params') [] [] finite finite'
    nofun nofun (congrArg (· ++ []) arrays)
  exact ⟨String.toList_inj.mp texts, Json.Value.array.inj values⟩

/-- Two statements have one key only if their texts differ in the white space around them at most, and
their parameters do not differ. -/
theorem cacheKey_eq_iff (finite : Json.Finite (Json.numbersOf params))
    (finite' : Json.Finite (Json.numbersOf params')) :
    cacheKey sql params = cacheKey sql' params' ↔
      Text.trim sql = Text.trim sql' ∧ params = params' := by
  constructor
  · exact cacheKey_inj finite finite'
  · rintro ⟨texts, rfl⟩
    rw [cacheKey, cacheKey, texts]

theorem cacheKey_lookalikes :
    let params : List Json.Value := [.string ":[1.5]", .number (.real 0.1)]
    let params' : List Json.Value := [.number (.real 1.5)]
    Json.Finite (Json.numbersOf params) ∧ Json.Finite (Json.numbersOf params') ∧
      (cacheKey "SELECT '['" params).startsWith (cacheKey "SELECT '[':[\"" params') = true ∧
      cacheKey " SELECT '['\n" params ≠ cacheKey "SELECT '[':[\"" params' := by
  intro params params'
  have finite : Json.Finite (Json.numbersOf params) := by decide +kernel
  have finite' : Json.Finite (Json.numbersOf params') := by decide +kernel
  refine ⟨finite, finite', by decide +kernel, fun same => ?_⟩
  have lengths := congrArg List.length ((cacheKey_eq_iff finite finite').mp same).2
  exact absurd lengths (by decide)

end NestedTx
