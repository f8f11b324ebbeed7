import CodeComplexity.Analysis.Desk

/-!
# The course of a desk

What happens to a desk: verdicts are asked for, callers go away, hovers have waited long enough,
replies arrive and are handed on, and the cache and the numbers of documents are cleared, in any
order.  `Desk.step` is one such event.
-/

namespace CodeComplexity

open Source Text

/-- Something that happens to a desk. -/
inductive DeskEvent (κ : Type) where
  | analyzeCode (caller : κ) (code : LooseText)
  | analyzeAt (caller : κ) (text : LooseText) (position : Position)
  | analyzeSelection (caller : κ) (text : LooseText) (range : Option TextRange)
  | hover (caller : κ) (uri : Uri) (text : LooseText) (position : Position)
  | withdraw (isCaller : κ → Bool)
  | ring (alarm : Alarm)
  | receive (code : String) (outcome : Except Fault Verdict)
  /-- The reply about a piece of code gets to those who wait for it. -/
  | handOn (code : String)
  | put (code : String) (verdict : Verdict)
  | clearCache
  | forget (uri : Uri)

/-- Something happens to a desk. -/
def Desk.step {κ : Type} (desk : Desk κ) (timeline : Timeline) :
    DeskEvent κ → Desk κ × List (DeskAct κ)
  | .analyzeCode caller code => desk.analyzeCode timeline.now caller code
  | .analyzeAt caller text position => desk.analyzeAt timeline.now caller text position
  | .analyzeSelection caller text range => desk.analyzeSelection timeline.now caller text range
  | .hover caller uri text position => desk.hover timeline caller uri text position
  | .withdraw isCaller => desk.withdraw isCaller
  | .ring alarm => desk.ring timeline.now alarm
  | .receive code outcome => (desk.receive timeline.now code outcome, [])
  | .handOn code => desk.handOn code
  | .put code verdict => (desk.put timeline.now code verdict, [])
  | .clearCache => (desk.clearCache, [])
  | .forget uri => (desk.forget uri, [])

end CodeComplexity
