import Colloquy.Proofs.Window

/-! How far back a conversation remembers: as far as the flow of its last beginning wants it. -/
namespace Colloquy

open Conversation (lastOf)

-- The flow in force at the last reset of a run, or at its beginning.
def foundedOn (founding inForce : Flow) : List Step → Flow
  | [] => founding
  | .turn .. :: rest => foundedOn founding inForce rest
  | .reload next :: rest => foundedOn founding next rest
  | .reset _ :: rest => foundedOn inForce inForce rest

def Checked (steps : List Step) : Prop :=
  ∀ next, .reload next ∈ steps → ∃ b, Flow.build b = .ok next

theorem Checked.cons {step : Step} {rest : List Step} (checked : Checked (step :: rest)) :
    Checked rest :=
  fun next reloaded => checked next (List.mem_cons_of_mem _ reloaded)

theorem built_limit {b : Blueprint} {flow : Flow} (built : Flow.build b = .ok flow) :
    1 ≤ flow.engine.historyLimit := by
  obtain ⟨fits, rfl⟩ := built_iff.mp built
  exact fits.history

theorem built_window {b : Blueprint} {flow : Flow} {loop : LoopSettings}
    (built : Flow.build b = .ok flow) (configured : flow.blueprint.loop = some loop) :
    loop.window ≤ flow.engine.historyLimit := by
  obtain ⟨fits, rfl⟩ := built_iff.mp built
  exact (fits.loop loop configured).window.2

theorem foundedOn_built {founding inForce : Flow} {steps : List Step}
    (first : ∃ b, Flow.build b = .ok founding) (built : ∃ b, Flow.build b = .ok inForce)
    (checked : Checked steps) : ∃ b, Flow.build b = .ok (foundedOn founding inForce steps) := by
  induction steps generalizing founding inForce with
  | nil => exact first
  | cons step rest ih =>
    cases step with
    | turn input now => exact ih first built checked.cons
    | reload next => exact ih first (checked next List.mem_cons_self) checked.cons
    | reset now => exact ih built built checked.cons

namespace Course

theorem run_built {t : Course} {steps : List Step} (built : ∃ b, Flow.build b = .ok t.engine.flow)
    (checked : Checked steps) : ∃ b, Flow.build b = .ok (t.run steps).engine.flow := by
  induction steps generalizing t with
  | nil => exact built
  | cons step rest ih =>
    cases step with
    | turn input now => exact ih (t := t.step (.turn input now)) built checked.cons
    | reload next =>
      exact ih (t := t.step (.reload next)) (checked next List.mem_cons_self) checked.cons
    | reset now => exact ih (t := t.step (.reset now)) built checked.cons

-- Turns and reloads leave the limit as it is, and a reset takes it from the flow in force.
theorem run_limit {t : Course} {founding : Flow} {steps : List Step}
    (limit : t.conversation.historyLimit = max founding.engine.historyLimit 1) :
    (t.run steps).conversation.historyLimit =
      max (foundedOn founding t.engine.flow steps).engine.historyLimit 1 := by
  induction steps generalizing t founding with
  | nil => exact limit
  | cons step rest ih =>
    have kept := (step_keeps t step).2
    cases step with
    | turn input now => exact ih (t := t.step (.turn input now)) ((kept rfl).2.trans limit)
    | reload next => exact ih (t := t.step (.reload next)) ((kept rfl).2.trans limit)
    | reset now => exact ih (t := t.step (.reset now)) rfl

end Course

theorem window_remembered {b : Blueprint} {flow : Flow} (built : Flow.build b = .ok flow)
    (registry : Registry) (id : String) (now : Instant) {steps : List Step}
    (checked : Checked steps) :
    let t := (Course.begin { flow := flow, registry := registry } id now).run steps
    let founding := foundedOn flow flow steps
    t.conversation.historyLimit = founding.engine.historyLimit ∧
    ∀ input loop, Source.loopSettings? (t.engine.snapshot t.conversation input) = some loop →
      (t.engine.flow.engine.historyLimit ≤ founding.engine.historyLimit →
        loop.window ≤ t.conversation.historyLimit) ∧
      (loop.window ≤ t.conversation.historyLimit →
        Source.pastWindow (t.engine.snapshot t.conversation input) loop =
          lastOf (loop.window - 1) t.records) := by
  intro t founding
  obtain ⟨first, accepted⟩ := foundedOn_built ⟨b, built⟩ ⟨b, built⟩ checked
  obtain ⟨last, inForce⟩ := Course.run_built
    (t := .begin { flow := flow, registry := registry } id now) ⟨b, built⟩ checked
  have limit : t.conversation.historyLimit = founding.engine.historyLimit :=
    (Course.run_limit rfl).trans (Nat.max_eq_left (built_limit accepted))
  refine ⟨limit, fun input loop configured => ⟨?room, ?whole⟩⟩
  case room =>
    intro shorter
    have fits := built_window inForce (Option.filter_eq_some_iff.mp configured).1
    exact limit ▸ Nat.le_trans fits shorter
  case whole =>
    intro room
    have chronicled : t.Chronicled :=
      Course.run_keeps Course.step_chronicled _ (Course.fresh_chronicled ..) steps
    exact chronicled.remembers (Nat.le_trans (Nat.sub_le ..) room)

def attention : LoopSettings where
  maxRepeats := 3
  window := 5
  nudgeAction := "nudge"
  rephraseAction := "rephrase"
  exitAction := "hand_over"

def attentive : Blueprint :=
  { forgetful with engine := { historyLimit := 20 }, loop := some attention }

def attentiveFlow : Flow := ⟨attentive, attentive.vocabulary⟩

def price : TurnInput := ⟨"price", .empty⟩

def asking : List Step := List.replicate 3 (.turn price .epoch)

def askedOn : Course :=
  (Course.begin { flow := forgetfulFlow } "visitor" .epoch).run (.reload attentiveFlow :: asking)

def fourthAsking : Snapshot := askedOn.engine.snapshot askedOn.conversation price

def askedAnew : List Step := .reload attentiveFlow :: .reset .epoch :: asking

theorem attention_cut_short :
    (Flow.build forgetful = .ok forgetfulFlow ∧ Flow.build attentive = .ok attentiveFlow) ∧
    (Source.loopSettings? fourthAsking = some attention ∧
      askedOn.conversation.historyLimit < attention.window) ∧
    Source.pastWindow fourthAsking attention ≠ lastOf (attention.window - 1) askedOn.records ∧
    Source.loopGuard.offers fourthAsking = [] ∧
    Source.loopGuard.offers (Source.recalling fourthAsking askedOn.records) ≠ [] := by
  have limit : askedOn.conversation.historyLimit < attention.window := by decide_cbv
  have cut : Source.pastWindow fourthAsking attention ≠
      lastOf (attention.window - 1) askedOn.records := by
    decide_cbv
  have silent : Source.loopGuard.offers fourthAsking = [] := by decide_cbv
  have recalled : Source.loopGuard.offers (Source.recalling fourthAsking askedOn.records) ≠ [] := by
    decide_cbv
  exact ⟨⟨by rfl, by rfl⟩, ⟨by rfl, limit⟩, cut, silent, recalled⟩

theorem attention_regained :
    let t := (Course.begin { flow := forgetfulFlow } "visitor" .epoch).run askedAnew
    let s := t.engine.snapshot t.conversation price
    (Flow.build forgetful = .ok forgetfulFlow ∧ Checked askedAnew) ∧
    t.conversation.historyLimit = 20 ∧
    Source.loopSettings? s = some attention ∧
    Source.pastWindow s attention = lastOf (attention.window - 1) t.records := by
  intro t s
  have built : Flow.build forgetful = .ok forgetfulFlow := by rfl
  have checked : Checked askedAnew := by
    intro next reloaded
    have same : next = attentiveFlow := by simpa [askedAnew, asking] using reloaded
    exact ⟨attentive, same ▸ by rfl⟩
  obtain ⟨limit, guards⟩ := window_remembered built .standard "visitor" .epoch checked
  have configured : Source.loopSettings? s = some attention := by rfl
  obtain ⟨room, whole⟩ := guards price attention configured
  exact ⟨⟨built, checked⟩, limit, configured, whole (room (Nat.le_refl _))⟩

end Colloquy
