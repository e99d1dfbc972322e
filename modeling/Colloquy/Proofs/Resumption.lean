import Colloquy.Proofs.Cascade
import Colloquy.Proofs.Course
import Colloquy.Proofs.Merging
import Colloquy.Proofs.Stored

/-!
Storing a conversation between turns, and going on with what is read back, makes no difference to it.
-/
namespace Colloquy

open Json

-- A value that can be stored, also once its field makes a float of it.
structure Value.Enters (v : Value) : Prop where
  kept : v.Kept 123
  widened : ∀ n, v = .int n → Exact (widen n)

def Data.Enters (data : Data) : Prop := ∀ p ∈ data.entries, p.2.Enters

theorem Data.kept_iff {data : Data} {levels : Nat} :
    data.Kept levels ↔ ∀ name v, data.find? name = some v → v.Kept levels := by
  constructor
  · exact fun kept name v found => kept (name, v) (Table.find?_iff_mem.mp found)
  · exact fun kept p member => kept p.1 p.2 (Table.find?_iff_mem.mpr member)

namespace Value

variable {levels : Nat} {v w : Value}

theorem items_kept (kept : v.Kept (levels + 1)) : ∀ item ∈ v.items, item.Kept levels := by
  cases kept with
  | list each => exact each
  | bool b => exact List.forall_mem_singleton.mpr (.bool b)
  | int n => exact List.forall_mem_singleton.mpr (.int n)
  | float exact => exact List.forall_mem_singleton.mpr (.float exact)
  | text s => exact List.forall_mem_singleton.mpr (.text s)

theorem accumulate_kept {existing : Option Value} (held : ∀ v ∈ existing, v.Kept (levels + 1))
    (kept : v.Kept (levels + 1)) : (accumulate existing v).Kept (levels + 1) := by
  have before : ∀ item ∈ existing.elim [] items, item.Kept levels := by
    cases existing with
    | none => exact nofun
    | some e => exact items_kept (held e rfl)
  refine .list fun item member => ?_
  rcases mem_foldl_adjoin member with old | new
  · exact before item old
  · exact items_kept kept item new

theorem coerce_kept {kind : Kind} (enters : v.Enters) (coerced : v.coerce kind = some w) :
    w.Kept 123 := by
  unfold coerce at coerced
  split at coerced
  · cases coerced
    exact .float (enters.widened _ rfl)
  · cases coerced
    exact .list (items_kept enters.kept)
  · split at coerced
    · cases coerced
      exact enters.kept
    · cases coerced

end Value

namespace Flow

theorem sanitize_kept (flow : Flow) {extracted : Data} (enters : extracted.Enters) :
    (flow.sanitize extracted).Kept 123 := by
  rw [Data.kept_iff]
  intro name w found
  obtain ⟨v, _, given, _, _, taken⟩ := find?_sanitize.mp found
  exact Value.coerce_kept (enters (name, v) (Table.find?_iff_mem.mp given)) taken

-- Fields that gather values make them longer, and may not be as deep as others.
def Gathers (flow : Flow) (data : Data) : Prop :=
  ∀ name v, data.find? name = some v → flow.mergeOf name = .accumulate → v.Kept 123

-- What a field holds after a turn is new, or what it held before.
theorem merge_new_or_old {flow : Flow} {committed extracted : Data} {name : String} {w : Value}
    (gathers : flow.Gathers committed) (kept : extracted.Kept 123)
    (found : (flow.merge committed extracted).find? name = some w) :
    w.Kept 123 ∨ committed.find? name = some w := by
  rw [find?_merge, Option.or_eq_some_iff] at found
  rcases found with new | ⟨_, old⟩
  · obtain ⟨v, given, rfl⟩ := Option.map_eq_some_iff.mp new
    have entering := Data.kept_iff.mp kept name v given
    left
    unfold mergeField
    split
    · rename_i accumulates
      exact Value.accumulate_kept (fun e held => gathers name e held accumulates) entering
    · exact entering
  · exact .inr old

end Flow

theorem sameList_self {items : List Value} (each : ∀ v ∈ items, v.same v = true) :
    Value.sameList items items = true := by
  induction items with
  | nil => rfl
  | cons v rest ih =>
    obtain ⟨here, later⟩ := List.forall_mem_cons.mp each
    unfold Value.sameList
    rw [here, ih later]
    rfl

theorem Value.Kept.same {v : Value} {levels : Nat} (kept : v.Kept levels) : v.same v = true := by
  induction kept with
  | bool b => exact beq_self_eq_true b
  | int n => exact beq_self_eq_true n
  | float exact => exact float_same exact.finite
  | text s => exact beq_self_eq_true s
  | list each ih => exact sameList_self ih

-- What did not change is no update, as it equals itself.
theorem Turn.dataUpdates_kept {s : Snapshot} (held : s.conversation.data.Kept 125)
    (taken : ∀ name w, s.prospective.find? name = some w →
      w.Kept 123 ∨ s.conversation.data.find? name = some w) : (dataUpdates s).Kept 123 := by
  rw [Data.kept_iff]
  intro name w found
  unfold dataUpdates at found
  rw [Table.find?_filterMap, Option.bind_eq_some_iff] at found
  obtain ⟨v, there, changed⟩ := found
  split at changed
  · cases changed
  · rename_i differs
    cases changed
    rcases taken name _ there with new | old
    · exact new
    · have same := (Data.kept_iff.mp held name _ old).same
      rw [old] at differs
      exact absurd same differs

def Snapshot.dated (s : Snapshot) (time : Instant) : Snapshot :=
  { s with conversation := { s.conversation with updatedAt := time } }

-- Sources that do not look at the time of the last change, and whose ranks fit their field.
structure Registry.Steady (registry : Registry) : Prop where
  undated : ∀ source ∈ registry, ∀ s time, source.applies (s.dated time) = source.applies s ∧
    source.contribute (s.dated time) = source.contribute s
  ranks : ∀ source ∈ registry, ∀ s, s.state?.isSome → ∀ p ∈ source.offers s, p.rank < countBound

theorem Registry.standard_steady : Registry.standard.Steady where
  undated := by
    unfold Registry.standard
    simp only [List.forall_mem_cons]
    exact ⟨fun _ _ => ⟨rfl, rfl⟩, fun _ _ => ⟨rfl, rfl⟩, fun _ _ => ⟨rfl, rfl⟩,
      fun _ _ => ⟨rfl, rfl⟩, fun _ _ => ⟨rfl, rfl⟩, fun _ _ => ⟨rfl, rfl⟩, fun _ _ => ⟨rfl, rfl⟩,
      fun _ _ => ⟨rfl, rfl⟩, nofun⟩
  ranks source member s known p offered := by
    obtain ⟨state, found⟩ := Option.isSome_iff_exists.mp known
    rw [standard_unranked found source member p offered]
    decide

section Steady

variable {registry : Registry} (steady : registry.Steady)
include steady

theorem Registry.Steady.asked (s : Snapshot) (time : Instant) :
    Turn.askedProposals registry (s.dated time) = Turn.askedProposals registry s := by
  have same : registry.proposals (s.dated time) = registry.proposals s := by
    unfold Registry.proposals
    apply List.flatMap_congr
    intro e member
    obtain ⟨applies, contribute⟩ := steady.undated e.1 (List.fst_mem_of_mem_zipIdx member) s time
    dsimp only
    rw [applies, contribute]
  unfold Turn.askedProposals
  rw [same]
  rfl

theorem Registry.Steady.ranked (s : Snapshot) :
    ∀ c ∈ Turn.askedProposals registry s, c.proposal.rank < countBound := by
  unfold Turn.askedProposals
  split
  · rename_i known
    intro c member
    rw [Registry.proposals_offers] at member
    obtain ⟨⟨source, index⟩, place, member⟩ := List.mem_flatMap.mp member
    obtain ⟨⟨p, seq⟩, offered, rfl⟩ := List.mem_map.mp member
    exact steady.ranks source (List.fst_mem_of_mem_zipIdx place) s known p
      (List.fst_mem_of_mem_zipIdx offered)
  · exact nofun

end Steady

theorem Turn.decision_fits {s : Snapshot} {ps : List Collected}
    (ranked : ∀ c ∈ ps, c.proposal.rank < countBound) : (decision s ps).Fits := by
  cases state : s.state? with
  | none =>
    rw [decision_unknown state]
    unfold degraded Decision.Fits
    simp only [List.forall_mem_append, List.forall_mem_map, List.forall_mem_singleton]
    exact ⟨ranked, by decide⟩
  | some _ =>
    have known : s.state?.isSome = true := Option.isSome_iff_exists.mpr ⟨_, state⟩
    obtain ⟨_, _, led⟩ := Resolution.resolved_led (decision_resolved known ps)
    unfold Decision.Fits
    rw [led.trace, List.forall_mem_map]
    exact fun e member => ranked e.1 (List.fst_mem_of_mem_zipIdx member)

-- A conversation that can be stored now and after so many more turns.
structure Conversation.Lasting (flow : Flow) (turns : Nat) (c : Conversation) : Prop where
  storable : c.Storable
  gathers : flow.Gathers c.data
  turn : c.turn + turns < countBound
  streak : c.counters.sameStateStreak + turns < countBound
  consecutive : c.counters.consecutiveObjections + turns < countBound
  total : c.counters.totalObjections + turns < countBound
  unclear : c.counters.consecutiveUnclear + turns < countBound

theorem Conversation.raiseTiers_dated (c : Conversation) (raised : List Escalation)
    (time : Instant) : raised.foldl raiseTier { c with updatedAt := time } =
      { raised.foldl raiseTier c with updatedAt := time } := by
  have one (c : Conversation) (e : Escalation) :
      raiseTier { c with updatedAt := time } e = { c.raiseTier e with updatedAt := time } := by
    unfold raiseTier
    have same : raises { c with updatedAt := time } e = c.raises e := rfl
    rw [same]
    split <;> rfl
  exact List.foldl_hom (fun c : Conversation => { c with updatedAt := time }) one

theorem Turn.commit_dated (s : Snapshot) (d : Decision) (raised : List Escalation)
    (before now later : Instant) : commit (s.dated before) d raised later =
      { commit s d raised now with updatedAt := later } := by
  have recorded : (s.dated before).conversation.pushHistory (record (s.dated before) d) =
      { s.conversation.pushHistory (record s d) with updatedAt := before } := rfl
  unfold commit
  dsimp only
  rw [recorded, Conversation.raiseTiers_dated]
  rfl

theorem Turn.nextCounters_grow (s : Snapshot) (next : String) :
    (nextCounters s next).sameStateStreak ≤ s.conversation.counters.sameStateStreak + 1 ∧
    (nextCounters s next).consecutiveObjections ≤
      s.conversation.counters.consecutiveObjections + 1 ∧
    (nextCounters s next).totalObjections ≤ s.conversation.counters.totalObjections + 1 ∧
    (nextCounters s next).consecutiveUnclear ≤ s.conversation.counters.consecutiveUnclear + 1 := by
  unfold nextCounters
  dsimp only
  refine ⟨?_, ?_, ?_, ?_⟩ <;> split <;> first | exact countAfter_le _ | omega

namespace Engine

variable {engine : Engine} (steady : engine.registry.Steady)
include steady

theorem turn_lasting {c : Conversation} {turns : Nat} {input : TurnInput} {now : Instant}
    (lasting : c.Lasting engine.flow (turns + 1)) (enters : input.extracted.Enters) (valid : now.Valid) :
    (engine.turn c input now).conversation.Lasting engine.flow turns := by
  let s := engine.snapshot c input
  let ps := Turn.askedProposals engine.registry s
  let d : Decision := (engine.turn c input now).decision
  obtain ⟨storable, held, turn, streak, consecutive, total, unclear⟩ := lasting
  have fits := storable.fits
  have taken (name : String) (w : Value) (found : s.prospective.find? name = some w) :=
    Flow.merge_new_or_old held (engine.flow.sanitize_kept enters) found
  have data : s.prospective.Kept 125 := by
    rw [Data.kept_iff]
    intro name w found
    rcases taken name w found with new | old
    · exact new.mono (by decide)
    · exact Data.kept_iff.mp storable.data name w old
  have gathers : engine.flow.Gathers s.prospective := by
    intro name w found accumulates
    rcases taken name w found with new | old
    · exact new
    · exact held name w old accumulates
  have decided : d.Fits := Turn.decision_fits (steady.ranked s)
  have grown : s.turn ≤ c.turn + 1 := countAfter_le c.turn
  have counted : s.turn < countBound := by omega
  obtain ⟨history, limit⟩ := Turn.commit_history s d (Turn.escalations ps) now
  obtain ⟨_, startedAt⟩ := Turn.commit_keeps s d (Turn.escalations ps) now
  obtain ⟨nextStreak, nextConsecutive, nextTotal, nextUnclear⟩ :=
    Turn.nextCounters_grow s d.nextState
  have recorded : ∀ r ∈ (engine.turn c input now).conversation.history, r.turn < countBound := by
    intro r member
    rw [show (engine.turn c input now).conversation.history = _ from history] at member
    rcases List.mem_append.mp (Conversation.lastOf_mem member) with old | new
    · exact fits.history r old
    · cases List.mem_singleton.mp new
      exact counted
  have room {before after : Nat} (grows : after ≤ before + 1)
      (fits : before + (turns + 1) < countBound) : after + turns < countBound := by omega
  have counters : (Turn.nextCounters s d.nextState).Fits :=
    ⟨Nat.lt_of_le_of_lt (Nat.le_add_right ..) (room nextStreak streak),
      Nat.lt_of_le_of_lt (Nat.le_add_right ..) (room nextConsecutive consecutive),
      Nat.lt_of_le_of_lt (Nat.le_add_right ..) (room nextTotal total),
      Nat.lt_of_le_of_lt (Nat.le_add_right ..) (room nextUnclear unclear)⟩
  refine ⟨⟨⟨counted, recorded, ?limit, counters, ?decision, ?started, valid⟩, data, ?updates⟩, gathers,
    room grown turn, room nextStreak streak, room nextConsecutive consecutive,
    room nextTotal total, room nextUnclear unclear⟩
  case limit =>
    rw [show (engine.turn c input now).conversation.historyLimit = _ from limit]
    exact fits.historyLimit
  case decision =>
    rintro _ ⟨⟩
    exact ⟨counted, decided⟩
  case started =>
    rw [show (engine.turn c input now).conversation.startedAt = _ from startedAt]
    exact fits.startedAt
  case updates =>
    rintro _ ⟨⟩
    exact Turn.dataUpdates_kept storable.data taken

-- When the conversation was last changed makes no difference to a turn.
theorem turn_dated (c : Conversation) (input : TurnInput) (before now later : Instant) :
    let dated := engine.turn { c with updatedAt := before } input later
    let result := engine.turn c input now
    dated.decision = result.decision ∧ dated.view = result.view ∧
      dated.conversation = { result.conversation with updatedAt := later } := by
  intro dated result
  let s := engine.snapshot c input
  have asked := steady.asked s before
  have decided : dated.decision = result.decision := by
    change { Turn.decision s (Turn.askedProposals engine.registry (s.dated before)) with
      dataUpdates := Turn.dataUpdates s } = _
    rw [asked]
    rfl
  have committed : dated.conversation = { result.conversation with updatedAt := later } := by
    change Turn.commit (s.dated before) dated.decision
      (Turn.escalations (Turn.askedProposals engine.registry (s.dated before))) later = _
    rw [asked, decided, Turn.commit_dated s _ _ before now later]
    rfl
  refine ⟨decided, ?_, committed⟩
  change engine.flow.view dated.conversation = engine.flow.view result.conversation
  rw [committed]
  rfl

end Engine

def Engine.converse (engine : Engine) (c : Conversation) :
    List (TurnInput × Instant) → List (Decision × View) × Conversation
  | [] => ([], c)
  | (input, now) :: rest =>
    let result := engine.turn c input now
    let (seen, last) := engine.converse result.conversation rest
    ((result.decision, result.view) :: seen, last)

-- A piece of a run that may be broken off between turns.
inductive Leg where
  | turn (input : TurnInput) (now : Instant)
  -- The conversation is stored, and the run goes on with what is read back.
  | resumed

def Leg.turn? : Leg → Option (TurnInput × Instant)
  | .turn input now => some (input, now)
  | .resumed => none

def Engine.converseStored (engine : Engine) (c : Conversation) :
    List Leg → Except (Unreadable Json.ReadError) (List (Decision × View) × Conversation)
  | [] => .ok ([], c)
  | .turn input now :: rest => do
    let result := engine.turn c input now
    let (seen, last) ← engine.converseStored result.conversation rest
    return ((result.decision, result.view) :: seen, last)
  | .resumed :: rest => do
    let c ← Conversation.ofJson c.toJson
    engine.converseStored c rest

theorem Engine.converseStored_as_converse {engine : Engine} (steady : engine.registry.Steady)
    {legs : List Leg} {turns : List (TurnInput × Instant)} {c straight : Conversation}
    (inputs : (legs.filterMap Leg.turn?).map (·.1) = turns.map (·.1))
    (same : straight = { c with updatedAt := straight.updatedAt })
    (lasting : c.Lasting engine.flow turns.length) (enters : ∀ t ∈ turns, t.1.extracted.Enters)
    (valid : ∀ t ∈ legs.filterMap Leg.turn?, t.2.Valid) :
    ∃ last, engine.converseStored c legs = .ok ((engine.converse straight turns).1, last) ∧
      (engine.converse straight turns).2 =
        { last with updatedAt := (engine.converse straight turns).2.updatedAt } := by
  induction legs generalizing turns c straight with
  | nil =>
    obtain rfl : turns = [] := List.map_eq_nil_iff.mp inputs.symm
    exact ⟨c, rfl, same⟩
  | cons leg rest ih =>
    cases leg with
    | resumed =>
      obtain ⟨last, goesOn, ends⟩ := ih inputs same lasting enters valid
      refine ⟨last, ?_, ends⟩
      unfold converseStored
      rw [Conversation.ofJson_toJson lasting.storable]
      exact goesOn
    | turn input now =>
      cases turns with
      | nil => cases inputs
      | cons t turns =>
        obtain ⟨first, later⟩ := List.cons.inj inputs
        obtain ⟨input', time⟩ := t
        cases first
        obtain ⟨entering, enters⟩ := List.forall_mem_cons.mp enters
        obtain ⟨timely, valid⟩ := List.forall_mem_cons.mp valid
        obtain ⟨decided, viewed, committed⟩ :=
          engine.turn_dated steady c input straight.updatedAt now time
        rw [← same] at decided viewed committed
        have next := engine.turn_lasting steady lasting entering timely
        have dated : (engine.turn straight input time).conversation =
            { (engine.turn c input now).conversation with
              updatedAt := (engine.turn straight input time).conversation.updatedAt } := by
          rw [committed]
        obtain ⟨last, goesOn, ends⟩ := ih later dated next enters valid
        refine ⟨last, ?_, ends⟩
        unfold converseStored
        simp only [goesOn, ← decided, ← viewed]
        rfl

-- A float in a field of its own, and wishes that pile up.
def shop : Blueprint := { lobby with
  fields := Table.ofList [
    ("price", { kind := .float }), ("wishes", { kind := .list, merge := .accumulate })] }

def shopEngine : Engine := { flow := ⟨shop, shop.vocabulary⟩ }

def wished : Data := Table.ofList [
  ("price", .float 2.5), ("wishes", .list [.list [.text "red", .int 3], .bool true])]

def shopper : Conversation where
  id := "visitor"
  current := "lobby"
  data := wished
  turn := 1
  history := [⟨1, "lobby", "unclear", "continue", "lobby"⟩]
  historyLimit := 20
  counters := { sameStateStreak := 1, consecutiveUnclear := 1 }
  tiers := Table.empty.insert "stall" .nudge
  lastDecision := some ⟨1, {
    action := "continue"
    nextState := "lobby"
    reasons := ["fallback_default"]
    transitionsSuppressed := false
    winningSource := some "fallback"
    dataUpdates := wished
    trace := [⟨"fallback", .action, "continue", .low, 0, "fallback_default", .won⟩] }⟩
  startedAt := .epoch
  updatedAt := ⟨1700000000, 250000000⟩

theorem exact_decimal {x : Float} (source : String) (word places : Nat)
    (written : line (.float x) = source)
    (reads : read source = .ok (decimalNumber false ⟨word, -places⟩)) (few : places ≤ 308)
    (some : 0 < places) (value : Float.ofNat word / powerOfTen places = x) : Exact x := by
  unfold Exact
  rw [written, reads]
  unfold decimalNumber
  dsimp only
  rw [scaled?, if_pos (by simpa using few), if_neg (by omega), Int.natAbs_neg, Int.natAbs_natCast,
    value]
  rfl

theorem wished_kept : Data.Kept 2 wished := by
  have price : Exact 2.5 :=
    exact_decimal "2.5" 25 1 (by decide +kernel) rfl (by decide) (by decide) (by decide +kernel)
  have entries : wished.entries =
      [("price", .float 2.5), ("wishes", .list [.list [.text "red", .int 3], .bool true])] := rfl
  unfold Data.Kept
  rw [entries]
  simp only [List.forall_mem_cons]
  refine ⟨.float price, .list ?_, nofun⟩
  simp only [List.forall_mem_cons]
  refine ⟨.list ?_, .bool _, nofun⟩
  simp only [List.forall_mem_cons]
  exact ⟨.text _, .int _, nofun⟩

theorem shopper_lasting : shopper.Lasting shopEngine.flow 3 := by
  have data (levels : Nat) (enough : 2 ≤ levels) : shopper.data.Kept levels :=
    fun p member => (wished_kept p member).mono enough
  have decided : ∀ r ∈ shopper.lastDecision, r.Fits := by
    rintro _ ⟨⟩
    refine ⟨by decide, ?_⟩
    unfold Decision.Fits
    decide
  have fits : shopper.Fits := ⟨by decide, by decide, by decide,
    ⟨by decide, by decide, by decide, by decide⟩, decided, ⟨by decide, by decide, by decide⟩,
    ⟨by decide, by decide, by decide⟩⟩
  refine ⟨⟨fits, data 125 (by decide), ?_⟩, ?_, by decide, by decide, by decide, by decide,
    by decide⟩
  · rintro _ ⟨⟩
    exact data 123 (by decide)
  · exact fun name v found _ => Data.kept_iff.mp (data 123 (by decide)) name v found

-- A whole price, which its field widens, and one more wish.
def bargain : TurnInput :=
  ⟨"hello", Table.ofList [("price", .int 3), ("wishes", .text "blue")]⟩

def shopTurns : List (TurnInput × Instant) :=
  [(bargain, .epoch), (⟨"mumble", .empty⟩, .epoch), (bargain, .epoch)]

-- The same turns at other times, with breaks before, between and after them.
def shopLegs : List Leg := [.resumed, .turn bargain ⟨1700000001, 0⟩,
  .turn ⟨"mumble", .empty⟩ ⟨1700000002, 500000000⟩, .resumed, .resumed,
  .turn bargain ⟨1700000003, 1⟩, .resumed]

theorem bargain_enters : bargain.extracted.Enters := by
  have widened : Exact (Value.widen 3) :=
    exact_decimal "3.0" 30 1 (by decide +kernel) rfl (by decide) (by decide) (by decide +kernel)
  have entries : bargain.extracted.entries = [("price", .int 3), ("wishes", .text "blue")] := rfl
  unfold Data.Enters
  rw [entries]
  simp only [List.forall_mem_cons]
  refine ⟨⟨.int 3, ?_⟩, ⟨.text _, nofun⟩, nofun⟩
  rintro _ ⟨⟩
  exact widened

end Colloquy
