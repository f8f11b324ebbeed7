import CodeComplexity.Analysis.Course
import CodeComplexity.Proofs.Verdict.Entries

/-!
# What comes of an event at a desk

Everything that may come of an event at a desk, as a list.  Most events come down to someone who
seeks the verdict on a piece of code, at once or after the cursor has come to rest; the others end a
query without a verdict, among them all that want one on a text that cannot be written, let it wait,
or are about replies and about what the desk keeps.  What every event keeps is proved from this list
and not from the queries.
-/

namespace CodeComplexity

open Source Text

variable {κ : Type}

/-- An event asks for the verdict on a text, on behalf of someone who may have to wait for it. -/
inductive DeskEvent.Wants : DeskEvent κ → Waiter κ → LooseText → Prop where
  | code (caller : κ) (code : LooseText) :
      Wants (.analyzeCode caller code) ⟨caller, .verdict⟩ code
  | place (caller : κ) {text : LooseText} {position : Position} {span : FunctionSpan}
      (found : locateContaining text position = some span) :
      Wants (.analyzeAt caller text position) ⟨caller, .function span⟩ span.text
  | selection (caller : κ) (text : LooseText) (range : Option TextRange) :
      Wants (.analyzeSelection caller text range) ⟨caller, .verdict⟩ (extractText text range)
  | hover (caller : κ) (uri : Uri) {text : LooseText} {position : Position} {span : FunctionSpan}
      (found : locateContaining text position = some span) :
      Wants (.hover caller uri text position) ⟨caller, .hover span⟩ span.text

namespace Desk

/-- A desk at which the hover of an alarm waits no longer. -/
def rested (desk : Desk κ) (alarm : Alarm) : Desk κ :=
  { desk with settling := desk.settling.filter fun other => other.alarm ≠ alarm }

/-- What comes of an event at a desk. -/
inductive Outcome (desk : Desk κ) (timeline : Timeline) :
    DeskEvent κ → Desk κ × List (DeskAct κ) → Prop where
  | sought {event : DeskEvent κ} {waiter : Waiter κ} {text : LooseText} {code : String}
      (wants : event.Wants waiter text) (writes : text.encoded = .ok code) :
      Outcome desk timeline event (desk.seek timeline.now waiter code)
  /-- The text that the verdict is wanted on cannot be written. -/
  | unwritten {event : DeskEvent κ} {waiter : Waiter κ} {text : LooseText} {error : EncodeError}
      (wants : event.Wants waiter text) (fails : text.encoded = .error error) :
      Outcome desk timeline event
        (desk, [.give waiter.caller (.error (.unencodable error))])
  | nowhere (caller : κ) {text : LooseText} {position : Position}
      (unfound : locateContaining text position = none) :
      Outcome desk timeline (.analyzeAt caller text position)
        (desk, [.give caller (.ok (.function none))])
  | hoveredNowhere (caller : κ) (uri : Uri) {text : LooseText} {position : Position}
      (unfound : locateContaining text position = none) :
      Outcome desk timeline (.hover caller uri text position)
        (desk, [.give caller (.ok (.function none))])
  | blank (caller : κ) {text : LooseText} {range : Option TextRange}
      (empty : allBlank (extractText text range).points = true) :
      Outcome desk timeline (.analyzeSelection caller text range)
        (desk, [.give caller (.error (.failure .emptySelection))])
  /-- A hover finds no verdict and waits for the cursor to rest. -/
  | settled (caller : κ) (uri : Uri) {text : LooseText} {position : Position} {span : FunctionSpan}
      {code : String} (found : locateContaining text position = some span)
      (writes : span.text.encoded = .ok code) :
      Outcome desk timeline (.hover caller uri text position)
        (desk.settle timeline caller uri span code, [])
  /-- The cursor has come to rest. -/
  | woken {alarm : Alarm} {hover : SettlingHover κ}
      (due : desk.settling.find? (fun hover => hover.alarm = alarm) = some hover) :
      Outcome desk timeline (.ring alarm)
        ((desk.rested alarm).seek timeline.now ⟨hover.caller, .hover hover.span⟩ hover.code)
  | superseded {alarm : Alarm} {hover : SettlingHover κ}
      (due : desk.settling.find? (fun hover => hover.alarm = alarm) = some hover) :
      Outcome desk timeline (.ring alarm)
        (desk.rested alarm, [.give hover.caller (.ok (.function none))])
  | unowned (alarm : Alarm) : Outcome desk timeline (.ring alarm) (desk, [])
  | withdrawn (isCaller : κ → Bool) :
      Outcome desk timeline (.withdraw isCaller) (desk.withdraw isCaller)
  | received (code : String) (outcome : Except Fault Verdict) :
      Outcome desk timeline (.receive code outcome) (desk.receive timeline.now code outcome, [])
  | handedOn (code : String) : Outcome desk timeline (.handOn code) (desk.handOn code)
  | stored (code : String) (verdict : Verdict) :
      Outcome desk timeline (.put code verdict) (desk.put timeline.now code verdict, [])
  | cleared : Outcome desk timeline .clearCache (desk.clearCache, [])
  | forgotten (uri : Uri) : Outcome desk timeline (.forget uri) (desk.forget uri, [])

theorem seekText_eq_seek {desk : Desk κ} {now : Int} {waiter : Waiter κ} {text : LooseText}
    {code : String} (writes : text.encoded = .ok code) :
    desk.seekText now waiter text = desk.seek now waiter code := by
  rw [seekText, writes]

/-- Code can be written. -/
theorem step_analyzeCode (desk : Desk κ) (timeline : Timeline) (caller : κ) (code : String) :
    desk.step timeline (.analyzeCode caller code) =
      desk.seek timeline.now ⟨caller, .verdict⟩ code :=
  seekText_eq_seek (LooseText.encoded_ofString code)

theorem outcome_seekText (desk : Desk κ) (timeline : Timeline) {event : DeskEvent κ}
    {waiter : Waiter κ} {text : LooseText} (wants : event.Wants waiter text) :
    Outcome desk timeline event (desk.seekText timeline.now waiter text) := by
  rw [seekText]
  split
  · next code writes => exact .sought wants writes
  · next error fails => exact .unwritten wants fails

/-- A hover that finds its verdict in the cache, or need not wait, seeks it like everyone else. -/
theorem hover_eq_seek {desk : Desk κ} {timeline : Timeline} {caller : κ} {uri : Uri}
    {text : LooseText} {position : Position} {span : FunctionSpan} {code : String}
    (found : locateContaining text position = some span) (writes : span.text.encoded = .ok code)
    (atOnce : (desk.cache.get timeline.now code).1 ≠ none ∨ ¬ 0 < desk.hoverDelay) :
    desk.hover timeline caller uri text position =
      desk.seek timeline.now ⟨caller, .hover span⟩ code := by
  rw [hover]
  simp only [found, writes]
  split
  · next verdict cache read =>
    rw [seek]
    simp only [read]
    rfl
  · next cache read =>
    have missed : (desk.cache.get timeline.now code).1 = none := by rw [read]
    have same : cache = desk.cache := by
      rw [Cache.get_of_eq_none missed] at read
      exact (Prod.mk.inj read).2.symm
    rw [if_neg (atOnce.resolve_left (not_not_intro missed)), same]

theorem hover_eq_settle {desk : Desk κ} {timeline : Timeline} {caller : κ} {uri : Uri}
    {text : LooseText} {position : Position} {span : FunctionSpan} {code : String}
    (found : locateContaining text position = some span) (writes : span.text.encoded = .ok code)
    (missed : (desk.cache.get timeline.now code).1 = none) (delay : 0 < desk.hoverDelay) :
    desk.hover timeline caller uri text position =
      (desk.settle timeline caller uri span code, []) := by
  rw [hover]
  simp only [found, writes, Cache.get_of_eq_none missed]
  rw [if_pos delay]

theorem hover_eq_give {desk : Desk κ} {timeline : Timeline} {caller : κ} {uri : Uri}
    {text : LooseText} {position : Position} {span : FunctionSpan} {error : EncodeError}
    (found : locateContaining text position = some span)
    (fails : span.text.encoded = .error error) :
    desk.hover timeline caller uri text position =
      (desk, [.give caller (.error (.unencodable error))]) := by
  rw [hover]
  simp only [found, fails]

theorem outcome (desk : Desk κ) (timeline : Timeline) (event : DeskEvent κ) :
    Outcome desk timeline event (desk.step timeline event) := by
  cases event with
  | analyzeCode caller code => exact desk.outcome_seekText timeline (.code caller code)
  | analyzeAt caller text position =>
      change Outcome desk timeline _ (desk.analyzeAt timeline.now caller text position)
      rw [analyzeAt]
      split
      · next unfound => exact .nowhere caller unfound
      · next span found => exact desk.outcome_seekText timeline (.place caller found)
  | analyzeSelection caller text range =>
      change Outcome desk timeline _ (desk.analyzeSelection timeline.now caller text range)
      rw [analyzeSelection]
      split
      · next empty => exact .blank caller empty
      · exact desk.outcome_seekText timeline (.selection caller text range)
  | hover caller uri text position =>
      change Outcome desk timeline _ (desk.hover timeline caller uri text position)
      cases found : locateContaining text position with
      | none =>
          rw [hover, found]
          exact .hoveredNowhere caller uri found
      | some span =>
          cases writes : span.text.encoded with
          | error error =>
              rw [hover_eq_give found writes]
              exact .unwritten (.hover caller uri found) writes
          | ok code =>
              by_cases waits : (desk.cache.get timeline.now code).1 = none ∧ 0 < desk.hoverDelay
              · rw [hover_eq_settle found writes waits.1 waits.2]
                exact .settled caller uri found writes
              · rw [hover_eq_seek found writes (not_and_or.mp waits)]
                exact .sought (.hover caller uri found) writes
  | withdraw isCaller => exact .withdrawn isCaller
  | ring alarm =>
      change Outcome desk timeline _ (desk.ring timeline.now alarm)
      rw [ring]
      split
      · exact .unowned alarm
      · next hover due =>
        dsimp only
        split
        · exact .woken due
        · exact .superseded due
  | receive code outcome => exact .received code outcome
  | handOn code => exact .handedOn code
  | put code verdict => exact .stored code verdict
  | clearCache => exact .cleared
  | forget uri => exact .forgotten uri

end Desk

end CodeComplexity
