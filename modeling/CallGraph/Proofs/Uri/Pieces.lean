import CallGraph.Proofs.Text.Cut
import CallGraph.Uri.Method

/-! The pieces of a method URI. Pieces without separators are joined to the
body of a URI, and cutting the body at its separators yields the same pieces.
Nothing here looks inside a piece. -/
namespace CallGraph.MethodUri.Pieces
open Text

/-- The body of a URI, from the slash in front of the namespace on. -/
def body (pieces : Pieces) : List Char :=
  '/' :: pieces.ns ++ '/' :: pieces.type ++ '.' :: pieces.method ++
    '(' :: pieces.params ++ ')' :: pieces.ret

/-- No piece but the parameters is empty, and no piece holds a separator that
would cut it, or cut another piece instead. -/
structure Separable (pieces : Pieces) : Prop where
  ns_ne : pieces.ns ≠ []
  type_ne : pieces.type ≠ []
  method_ne : pieces.method ≠ []
  ret_ne : pieces.ret ≠ []
  ns_free : '/' ∉ pieces.ns ∧ '(' ∉ pieces.ns ∧ ')' ∉ pieces.ns
  type_free : '/' ∉ pieces.type ∧ '.' ∉ pieces.type ∧ '(' ∉ pieces.type ∧ ')' ∉ pieces.type
  method_free : '/' ∉ pieces.method ∧ '(' ∉ pieces.method ∧ ')' ∉ pieces.method
  params_free : '(' ∉ pieces.params ∧ ')' ∉ pieces.params
  ret_free : '/' ∉ pieces.ret ∧ ',' ∉ pieces.ret ∧ '(' ∉ pieces.ret ∧ ')' ∉ pieces.ret

variable {pieces : Pieces}

private theorem body_eq (pieces : Pieces) : pieces.body =
    '/' :: (pieces.ns ++ '/' :: ((pieces.type ++ '.' :: pieces.method) ++
      '(' :: (pieces.params ++ ')' :: pieces.ret))) := by
  simp [body]

theorem hasParameterList_body (free : pieces.Separable) : hasParameterList pieces.body = true := by
  have noOpen : '(' ∉ '/' :: (pieces.ns ++ '/' :: (pieces.type ++ '.' :: pieces.method)) := by
    simp [free.ns_free, free.type_free, free.method_free]
  have front : pieces.body = ('/' :: (pieces.ns ++ '/' :: (pieces.type ++ '.' :: pieces.method))) ++
      '(' :: (pieces.params ++ ')' :: pieces.ret) := by
    simp [body]
  have opening : pieces.body.count '(' = 1 := by
    simp [body, List.count_append, List.count_eq_zero_of_not_mem, free.ns_free,
      free.type_free, free.method_free, free.params_free, free.ret_free]
  have closing : pieces.body.count ')' = 1 := by
    simp [body, List.count_append, List.count_eq_zero_of_not_mem, free.ns_free,
      free.type_free, free.method_free, free.params_free, free.ret_free]
  rw [hasParameterList, opening, closing, front, cutFirst?_append noOpen]
  simp

/-- Cutting a body undoes joining it. -/
theorem ofBody_body (free : pieces.Separable) : ofBody pieces.body = some pieces := by
  have noOpen : '(' ∉ pieces.type ++ '.' :: pieces.method := by
    simp [free.type_free, free.method_free]
  rw [ofBody, body_eq]
  simp only [afterStart?, if_true, cutFirst?_append free.ns_free.1, cutFirst?_append noOpen,
    cutFirst?_append free.params_free.2, cutFirst?_append free.type_free.2.1, bind, Option.bind]
  simp [free.ns_ne, free.type_ne, free.method_ne, free.ret_ne, free.type_free, free.method_free,
    free.ret_free]

/-- What is cut joins to the body again. The type is cut off at the first dot, so
it has none. -/
theorem eq_body_of_ofBody {cs : List Char} (cut : ofBody cs = some pieces) :
    cs = pieces.body ∧ '.' ∉ pieces.type := by
  obtain ⟨path, start, cut⟩ := Option.bind_eq_some_iff.1 cut
  obtain ⟨⟨ns, rest⟩, atNs, cut⟩ := Option.bind_eq_some_iff.1 cut
  obtain ⟨⟨qualified, rest'⟩, atOpen, cut⟩ := Option.bind_eq_some_iff.1 cut
  obtain ⟨⟨params, ret⟩, atClose, cut⟩ := Option.bind_eq_some_iff.1 cut
  obtain ⟨⟨type, method⟩, atDot, checked⟩ := Option.bind_eq_some_iff.1 cut
  obtain ⟨rfl, noDot⟩ := cutFirst?_eq_some atDot
  obtain ⟨rfl, -⟩ := cutFirst?_eq_some atClose
  obtain ⟨rfl, -⟩ := cutFirst?_eq_some atOpen
  obtain ⟨rfl, -⟩ := cutFirst?_eq_some atNs
  obtain rfl := eq_append_of_afterStart? start
  dsimp only at checked
  split at checked
  · cases checked
  · split at checked
    · cases checked
    · obtain rfl := Option.some.inj checked
      exact ⟨by simp [body], noDot⟩

end CallGraph.MethodUri.Pieces
