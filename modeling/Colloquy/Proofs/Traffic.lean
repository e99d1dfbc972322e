import Colloquy.Proofs.Course
import Colloquy.Proofs.Programs
import Colloquy.Session

/-! Several calls of a session at once, on one store. -/
namespace Colloquy

structure Hearing where
  classifier : Classifier
  limit : Nat
  text : String
  now : Instant

namespace Hearing

variable (engine : Engine) (h : Hearing)

-- What the classifier makes of the text, if it does so in time.
def input (c : Conversation) : TurnInput :=
  let o := Opening.of engine.flow c h.text
  o.input ((h.classifier.classify o.text o.context).within h.limit h.classifier.name)

def begins (id : String) (held : Option Conversation) : Conversation :=
  held.getD (engine.start id h.now)

def leaves (id : String) (held : Option Conversation) : Conversation :=
  (engine.turn (h.begins engine id held) (h.input engine (h.begins engine id held))
    h.now).conversation

end Hearing

-- What is left of a conversation after some turns, the first of which may begin it.
def Engine.settled (engine : Engine) (id : String) (held : Option Conversation)
    (hearings : List Hearing) : Option Conversation :=
  hearings.foldl (fun held h => some (h.leaves engine id held)) held

structure Remark where
  id : String
  hearing : Hearing
  generator : Generator

abbrev Remaining := Program StoreCall StoreCall.Answer (Except Fault Reply)

namespace Remark

variable (engine : Engine) (r : Remark)

def session : Session where
  engine := engine
  classifier := r.hearing.classifier
  generator := r.generator
  limit := r.hearing.limit

def program : Remaining :=
  (r.session engine).respond (some .remote) r.id r.hearing.text r.hearing.now

def reply (held : Option Conversation) : Reply :=
  (r.session engine).turn (r.hearing.begins engine r.id held) r.hearing.text r.hearing.now

-- It loads first, and what it saves goes by what it loaded.
theorem program_calls : ∃ loaded, r.program engine = .call (.load r.id) loaded ∧
    ∀ held, ∃ saved,
      loaded (.ok held) = .call (.save (r.hearing.leaves engine r.id held)) saved ∧
      saved (.ok ()) = .done (.ok (r.reply engine held)) :=
  ⟨_, rfl, fun _ => ⟨_, rfl, rfl⟩⟩

end Remark

structure Traffic where
  stored : Table Conversation
  -- Those under way, with what is left to do.
  pending : List (Remark × Remaining)
  -- All of them, in the order in which they began.
  begun : List Remark

namespace Traffic

def hearings (t : Traffic) (id : String) : List Hearing :=
  (t.begun.filter (·.id == id)).map (·.hearing)

inductive Moves (engine : Engine) (t : Traffic) : Traffic → Prop where
  -- No other call on the same conversation is under way.
  | begin (r : Remark) (alone : ∀ p ∈ t.pending, p.1.id ≠ r.id) :
      Moves engine t ⟨t.stored, t.pending ++ [(r, r.program engine)], t.begun ++ [r]⟩
  | call {r : Remark} {c : StoreCall} {next : c.Answer → Remaining}
      {before after : List (Remark × Remaining)} {answer : c.Answer} {stored : Table Conversation}
      (waiting : t.pending = before ++ (r, .call c next) :: after)
      (answered : (Store.tabled.perform c).run t.stored = (answer, stored)) :
      Moves engine t ⟨stored, before ++ (r, next answer) :: after, t.begun⟩
  | finish {r : Remark} {answer : Except Fault Reply} {before after : List (Remark × Remaining)}
      (waiting : t.pending = before ++ (r, .done answer) :: after) :
      Moves engine t ⟨t.stored, before ++ after, t.begun⟩

-- Beginning with what earlier calls left in the store.
inductive Reached (engine : Engine) (setup : List StoreCall) : Traffic → Prop where
  | start : Reached engine setup ⟨((Store.tabled.performAll setup).run .empty).2, [], []⟩
  | move {t t' : Traffic} (reached : Reached engine setup t) (moves : Moves engine t t') :
      Reached engine setup t'

end Traffic

def Keyed (stored : Table Conversation) : Prop := ∀ id c, stored.find? id = some c → c.id = id

theorem Store.perform_keyed {stored : Table Conversation} (keyed : Keyed stored)
    (call : StoreCall) : Keyed ((tabled.perform call).run stored).2 := by
  intro id c found
  rw [tabled_leaves] at found
  cases call with
  | save saved =>
    change (if id = saved.id then some saved else stored.find? id) = some c at found
    split at found
    · rename_i same
      cases found
      exact same.symm
    · exact keyed id c found
  | delete other =>
    change (if id = other then none else stored.find? id) = some c at found
    split at found
    · cases found
    · exact keyed id c found
  | load other => exact keyed id c found
  | list => exact keyed id c found

theorem Store.performAll_keyed (calls : List StoreCall) {stored : Table Conversation}
    (keyed : Keyed stored) : Keyed ((tabled.performAll calls).run stored).2 := by
  induction calls generalizing stored with
  | nil => exact keyed
  | cons call rest ih =>
    rw [performAll_cons]
    exact ih (perform_keyed keyed call)

theorem Hearing.leaves_id (engine : Engine) (h : Hearing) {id : String}
    {held : Option Conversation} (named : ∀ c, held = some c → c.id = id) :
    (h.leaves engine id held).id = id := by
  let c := h.begins engine id held
  let input := h.input engine c
  let s := engine.snapshot c input
  have kept := Turn.commit_keeps s (engine.turn c input h.now).decision
    (Turn.escalations (Turn.askedProposals engine.registry s)) h.now
  have began : c.id = id := by
    cases held with
    | none => rfl
    | some before => exact named before rfl
  exact kept.1.trans began

-- How far a call has come, given what was stored of its conversation when it began.
inductive Remark.Stage (engine : Engine) (r : Remark) (held : Option Conversation)
    (stored : Table Conversation) : Remaining → Prop where
  | opened (same : stored.find? r.id = held) : Remark.Stage engine r held stored (r.program engine)
  | loaded (same : stored.find? r.id = held) {saved : Except StoreError Unit → Remaining}
      (last : saved (.ok ()) = .done (.ok (r.reply engine held))) :
      Remark.Stage engine r held stored (.call (.save (r.hearing.leaves engine r.id held)) saved)
  | saved (left : stored.find? r.id = some (r.hearing.leaves engine r.id held)) :
      Remark.Stage engine r held stored (.done (.ok (r.reply engine held)))

namespace Remark.Stage

variable {engine : Engine} {r : Remark} {held : Option Conversation}
  {stored : Table Conversation}

-- What happens to other conversations does not matter to it.
theorem frame {p : Remaining} (stage : Remark.Stage engine r held stored p) {later : Table Conversation}
    (same : later.find? r.id = stored.find? r.id) : Remark.Stage engine r held later p := by
  cases stage with
  | opened before => exact .opened (same.trans before)
  | loaded before last => exact .loaded (same.trans before) last
  | saved left => exact .saved (same.trans left)

theorem done {answer : Except Fault Reply} (stage : Remark.Stage engine r held stored (.done answer)) :
    answer = .ok (r.reply engine held) ∧
      stored.find? r.id = some (r.hearing.leaves engine r.id held) := by
  obtain ⟨loaded, program, _⟩ := r.program_calls engine
  generalize remaining : Program.done answer = p at stage
  cases stage with
  | opened before =>
    rw [program] at remaining
    cases remaining
  | loaded before last => cases remaining
  | saved left =>
    cases remaining
    exact ⟨rfl, left⟩

-- Each of its calls takes it further and leaves other conversations alone.
theorem call {c : StoreCall} {next : c.Answer → Remaining}
    (stage : Remark.Stage engine r held stored (.call c next)) (keyed : Keyed stored) :
    let (answer, later) := (Store.tabled.perform c).run stored
    Remark.Stage engine r held later (next answer) ∧
      ∀ id, id ≠ r.id → later.find? id = stored.find? id := by
  obtain ⟨loaded, program, calls⟩ := r.program_calls engine
  generalize remaining : Program.call c next = p at stage
  cases stage with
  | opened before =>
    rw [program] at remaining
    cases remaining
    obtain ⟨saved, saves, last⟩ := calls held
    refine ⟨?_, fun _ _ => rfl⟩
    change Remark.Stage engine r held stored (loaded (.ok (stored.find? r.id)))
    rw [before, saves]
    exact .loaded before last
  | @loaded before saved last =>
    cases remaining
    have named : (r.hearing.leaves engine r.id held).id = r.id :=
      r.hearing.leaves_id engine fun c same => keyed r.id c (before.trans same)
    refine ⟨?_, fun id other => ?_⟩
    · change Remark.Stage engine r held _ (saved (.ok ()))
      rw [last]
      apply Remark.Stage.saved
      change (stored.insert _ _).find? r.id = _
      rw [Table.find?_insert, if_pos named.symm]
    · change (stored.insert _ _).find? id = _
      rw [Table.find?_insert, if_neg (by rw [named]; exact other)]
  | saved left => cases remaining

end Remark.Stage

namespace Traffic

-- What is stored is what the calls leave that are through, and each other call is at some stage.
structure Ordered (engine : Engine) (initial : String → Option Conversation) (t : Traffic) :
    Prop where
  keyed : Keyed t.stored
  apart : t.pending.Pairwise fun p q => p.1.id ≠ q.1.id
  idle : ∀ id, (∀ p ∈ t.pending, p.1.id ≠ id) →
    t.stored.find? id = engine.settled id (initial id) (t.hearings id)
  busy : ∀ p ∈ t.pending, ∃ earlier, t.hearings p.1.id = earlier ++ [p.1.hearing] ∧
    Remark.Stage engine p.1 (engine.settled p.1.id (initial p.1.id) earlier) t.stored p.2

variable {engine : Engine} {initial : String → Option Conversation} {t : Traffic}

theorem hearings_begun (t : Traffic) (r : Remark) (stored : Table Conversation)
    (pending : List (Remark × Remaining)) (id : String) :
    hearings ⟨stored, pending, t.begun ++ [r]⟩ id =
      if id = r.id then t.hearings id ++ [r.hearing] else t.hearings id := by
  unfold hearings
  rw [List.filter_append, List.map_append]
  by_cases own : id = r.id
  · simp [own]
  · simp [own, Ne.symm own]

theorem Ordered.begin (ordered : Ordered engine initial t) (r : Remark)
    (alone : ∀ p ∈ t.pending, p.1.id ≠ r.id) :
    Ordered engine initial
      ⟨t.stored, t.pending ++ [(r, r.program engine)], t.begun ++ [r]⟩ := by
  have others (p : Remark × Remaining) (member : p ∈ t.pending) :=
    List.mem_append_left [(r, r.program engine)] member
  have last : (r, r.program engine) ∈ t.pending ++ [(r, r.program engine)] := by simp
  refine ⟨ordered.keyed, ?apart, ?idle, ?busy⟩
  case apart =>
    rw [List.pairwise_append]
    refine ⟨ordered.apart, List.pairwise_singleton .., fun p member q single => ?_⟩
    cases List.mem_singleton.mp single
    exact alone p member
  case idle =>
    intro id quiet
    rw [hearings_begun, if_neg (Ne.symm (quiet _ last))]
    exact ordered.idle id fun p member => quiet p (others p member)
  case busy =>
    intro p member
    rw [hearings_begun]
    rcases List.mem_append.mp member with old | new
    · rw [if_neg (alone p old)]
      exact ordered.busy p old
    · cases List.mem_singleton.mp new
      rw [if_pos rfl]
      exact ⟨t.hearings r.id, rfl, .opened (ordered.idle r.id alone)⟩

theorem mem_middle {before after : List (Remark × Remaining)} {p x : Remark × Remaining} :
    p ∈ before ++ x :: after ↔ p = x ∨ p ∈ before ++ after := by
  rw [List.perm_middle.mem_iff, List.mem_cons]

theorem apart_iff {before after : List (Remark × Remaining)} {x : Remark × Remaining} :
    (before ++ x :: after).Pairwise (fun p q => p.1.id ≠ q.1.id) ↔
      (∀ p ∈ before ++ after, p.1.id ≠ x.1.id) ∧
        (before ++ after).Pairwise fun p q => p.1.id ≠ q.1.id := by
  have moved : (before ++ x :: after).Perm (x :: (before ++ after)) := List.perm_middle
  rw [moved.pairwise_iff fun different => different.symm, List.pairwise_cons]
  exact and_congr_left fun _ =>
    ⟨fun h p member => (h p member).symm, fun h p member => (h p member).symm⟩

theorem Ordered.call (ordered : Ordered engine initial t) {r : Remark} {c : StoreCall}
    {next : c.Answer → Remaining} {before after : List (Remark × Remaining)}
    (waiting : t.pending = before ++ (r, .call c next) :: after) {answer : c.Answer}
    {stored : Table Conversation}
    (answered : (Store.tabled.perform c).run t.stored = (answer, stored)) :
    Ordered engine initial ⟨stored, before ++ (r, next answer) :: after, t.begun⟩ := by
  have here : (r, Program.call c next) ∈ t.pending := by
    rw [waiting]
    exact mem_middle.mpr (.inl rfl)
  obtain ⟨earlier, heard, stage⟩ := ordered.busy _ here
  have apart := ordered.apart
  rw [waiting, apart_iff] at apart
  have further := stage.call ordered.keyed
  have keyed := Store.perform_keyed ordered.keyed c
  rw [answered] at further keyed
  obtain ⟨stage, frame⟩ := further
  refine ⟨keyed, apart_iff.mpr apart, fun id quiet => ?idle, fun p member => ?busy⟩
  case idle =>
    have other : r.id ≠ id := quiet (r, next answer) (mem_middle.mpr (.inl rfl))
    rw [frame id other.symm]
    apply ordered.idle
    intro p member
    rw [waiting, mem_middle] at member
    rcases member with rfl | around
    · exact other
    · exact quiet p (mem_middle.mpr (.inr around))
  case busy =>
    rw [mem_middle] at member
    rcases member with rfl | around
    · exact ⟨earlier, heard, stage⟩
    · have member : p ∈ t.pending := by
        rw [waiting]
        exact mem_middle.mpr (.inr around)
      obtain ⟨earlier, heard, stage⟩ := ordered.busy p member
      exact ⟨earlier, heard, stage.frame (frame p.1.id (apart.1 p around))⟩

theorem Ordered.finish (ordered : Ordered engine initial t) {r : Remark}
    {answer : Except Fault Reply} {before after : List (Remark × Remaining)}
    (waiting : t.pending = before ++ (r, .done answer) :: after) :
    Ordered engine initial ⟨t.stored, before ++ after, t.begun⟩ := by
  have here : (r, Program.done answer) ∈ t.pending := by
    rw [waiting]
    exact mem_middle.mpr (.inl rfl)
  have apart := ordered.apart
  rw [waiting, apart_iff] at apart
  refine ⟨ordered.keyed, apart.2, fun id quiet => ?idle, fun p member => ?busy⟩
  case idle =>
    by_cases own : id = r.id
    · obtain ⟨earlier, heard, stage⟩ := ordered.busy _ here
      obtain ⟨_, left⟩ := stage.done
      subst own
      change t.stored.find? r.id = engine.settled r.id (initial r.id) (t.hearings r.id)
      rw [heard, left]
      unfold Engine.settled
      rw [List.foldl_append]
      rfl
    · apply ordered.idle
      intro p member
      rw [waiting, mem_middle] at member
      rcases member with rfl | around
      · exact Ne.symm own
      · exact quiet p around
  case busy =>
    apply ordered.busy
    rw [waiting]
    exact mem_middle.mpr (.inr member)

theorem reached_ordered {setup : List StoreCall} (reached : Reached engine setup t) :
    Ordered engine (lastSaved setup) t := by
  induction reached with
  | start =>
    have keyed : Keyed ((Store.tabled.performAll setup).run .empty).2 :=
      Store.performAll_keyed setup nofun
    exact ⟨keyed, .nil, fun id _ => Store.tabled_all_leaves setup id, nofun⟩
  | move _ moves ih =>
    cases moves with
    | begin r alone => exact ih.begin r alone
    | call waiting answered => exact ih.call waiting answered
    | finish waiting => exact ih.finish waiting

theorem Reached.finishes {setup : List StoreCall} {r : Remark} {p : Remaining}
    {rest : List (Remark × Remaining)} (reached : Reached engine setup t)
    (waiting : t.pending = (r, p) :: rest) :
    ∃ t', Reached engine setup t' ∧ t'.pending = rest ∧ t'.begun = t.begun := by
  induction p generalizing t with
  | done answer =>
    have front : t.pending = [] ++ (r, .done answer) :: rest := waiting
    exact ⟨_, reached.move (.finish front), rfl, rfl⟩
  | call c next ih =>
    have front : t.pending = [] ++ (r, .call c next) :: rest := waiting
    have further := reached.move (.call front rfl)
    obtain ⟨t', ended⟩ := ih _ further rfl
    exact ⟨t', ended⟩

theorem Reached.completes {setup : List StoreCall} (reached : Reached engine setup t) :
    ∃ t', Reached engine setup t' ∧ t'.pending = [] ∧ t'.begun = t.begun := by
  generalize waiting : t.pending = pending
  induction pending generalizing t with
  | nil => exact ⟨t, reached, waiting, rfl⟩
  | cons p rest ih =>
    obtain ⟨t', reached', left, begun⟩ := reached.finishes waiting
    obtain ⟨last, ended, none, same⟩ := ih reached' left
    exact ⟨last, ended, none, same.trans begun⟩

end Traffic

-- A classifier that never answers in time, one that always hears a greeting, and no words.
def silent : Classifier := ⟨"silent", fun _ _ => ⟨11, .ok ⟨"hello", 1, .empty⟩⟩⟩

def cheerful : Classifier := ⟨"cheerful", fun _ _ => ⟨10, .ok ⟨"hello", 1, .empty⟩⟩⟩

def wordless : Generator := ⟨"wordless", fun _ => ⟨0, .error (.generation "no words")⟩⟩

def visit : Remark := ⟨"visitor", ⟨silent, 10, "good day", .epoch⟩, wordless⟩

def look : Remark := ⟨"guest", ⟨cheerful, 10, "good day", .epoch⟩, wordless⟩

end Colloquy
