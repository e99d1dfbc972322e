import Colloquy.Proofs.Folders
import Colloquy.Proofs.Programs

/-! Savers at work in one folder, each at its own pace, any of which may fail or stop anywhere. -/
namespace Colloquy

inductive FolderChange where
  | create
  | write (name content : String)
  | remove (name : String)
  | rename (source target : String)

namespace FolderChange

def apply : FolderChange → Place → Except FileFault Place
  | .create => Place.create
  | .write name content => (·.write none name content)
  | .remove name => (·.remove none name)
  | .rename source target => (·.rename none source target)

def isMove : FolderChange → Bool
  | .rename _ _ => true
  | _ => false

end FolderChange

inductive FolderCall where
  | change (c : FolderChange)
  | read (name : String)
  | names
  | temporary

abbrev FolderCall.Answer : FolderCall → Type
  | .change _ => Except FileFault Unit
  | .read _ => Except FileFault String
  | .names => Except FileFault (List String)
  | .temporary => String

-- A folder that others work in as well.
def FolderAccess.remote (shown : Option String → String) :
    FolderAccess (Program FolderCall FolderCall.Answer) where
  shown := shown
  create := .ask (FolderCall.change .create)
  read name := .ask (FolderCall.read name)
  write name content := .ask (FolderCall.change (.write name content))
  remove name := .ask (FolderCall.change (.remove name))
  rename source target := .ask (FolderCall.change (.rename source target))
  names := .ask FolderCall.names
  temporary := .ask FolderCall.temporary

open Store.Files

abbrev Unsaved := Program FolderCall FolderCall.Answer (Except StoreError Unit)

def saving (shown : Option String → String) (c : Conversation) : Unsaved :=
  (Store.files (.remote shown)).save c

def Ends (rest : Unsaved) : Prop := ∃ e, rest = .done (.error e)

def Removes (temporary : String) (rest : Unsaved) : Prop :=
  ∃ next, rest = .call (.change (.remove temporary)) next ∧ ∀ answer, Ends (next answer)

def Renames (c : Conversation) (temporary : String) (rest : Unsaved) : Prop :=
  ∃ next, rest = .call (.change (.rename temporary (fileName c.id))) next ∧
    next (.ok ()) = .done (.ok ()) ∧ ∀ e, Removes temporary (next (.error e))

def Writes (c : Conversation) (temporary : String) (rest : Unsaved) : Prop :=
  ∃ next, rest = .call (.change (.write temporary c.toJson)) next ∧
    Renames c temporary (next (.ok ())) ∧ ∀ e, Ends (next (.error e))

def Names (c : Conversation) (rest : Unsaved) : Prop :=
  ∃ next, rest = .call .temporary next ∧ ∀ temporary, Writes c temporary (next temporary)

def Creates (c : Conversation) (rest : Unsaved) : Prop :=
  ∃ next, rest = .call (.change .create) next ∧ Names c (next (.ok ())) ∧
    ∀ e, Ends (next (.error e))

theorem saving_creates (shown : Option String → String) {c : Conversation}
    (usable : isUsable c.id = true) : Creates c (saving shown c) := by
  change Creates c (Store.Files.save (.remote shown) c)
  unfold Store.Files.save
  rw [if_pos usable]
  have ends (e : StoreError) : Ends (.done (.error e)) := ⟨e, rfl⟩
  refine ⟨_, rfl, ⟨_, rfl, fun temporary => ⟨_, rfl, ⟨_, rfl, rfl, fun e => ?_⟩, ?_⟩⟩, ?_⟩
  · exact ⟨_, rfl, fun _ => ends _⟩
  · exact fun e => ends _
  · exact fun e => ends _

theorem saving_ends (shown : Option String → String) {c : Conversation}
    (unusable : isUsable c.id = false) : Ends (saving shown c) :=
  ⟨_, save_refused (.remote shown) unusable⟩

structure Saver where
  conversation : Conversation
  temporary : Option String
  rest : Unsaved

structure Workroom where
  place : Place
  savers : List Saver
  issued : List String
  -- Who moved a file to its place, and what was in it, in this order.
  moved : List (Nat × Conversation)

def hiddenName (stem : List Char) : String := String.ofList ('.' :: stem ++ ['.', 't', 'm', 'p'])

namespace Workroom

-- A call of one saver is done, or fails for whatever reason and changes nothing.
inductive Moves (w : Workroom) : Workroom → Prop where
  | change {i : Nat} {saver : Saver} {c : FolderChange} {next : Except FileFault Unit → Unsaved}
      {place : Place} (waiting : w.savers[i]? = some saver)
      (calls : saver.rest = .call (.change c) next) (done : c.apply w.place = .ok place) :
      Moves w { w with
        place := place
        savers := w.savers.set i { saver with rest := next (.ok ()) }
        moved := if c.isMove then w.moved ++ [(i, saver.conversation)] else w.moved }
  | fail {i : Nat} {saver : Saver} {c : FolderChange} {next : Except FileFault Unit → Unsaved}
      (waiting : w.savers[i]? = some saver) (calls : saver.rest = .call (.change c) next)
      (e : FileFault) :
      Moves w { w with savers := w.savers.set i { saver with rest := next (.error e) } }
  -- A file that is being written holds some of its content or none, and perhaps never more.
  | part {i : Nat} {saver : Saver} {name content piece : String}
      {next : Except FileFault Unit → Unsaved} {place : Place}
      (waiting : w.savers[i]? = some saver)
      (calls : saver.rest = .call (.change (.write name content)) next)
      (done : w.place.write none name piece = .ok place) :
      Moves w { w with place := place }
  | name {i : Nat} {saver : Saver} {next : String → Unsaved}
      (waiting : w.savers[i]? = some saver) (calls : saver.rest = .call .temporary next)
      (stem : List Char) (fresh : hiddenName stem ∉ w.issued) :
      Moves w { w with
        savers := w.savers.set i
          { saver with temporary := some (hiddenName stem), rest := next (hiddenName stem) }
        issued := hiddenName stem :: w.issued }

-- Some savers, one for each conversation, that have not begun.
def opened (shown : Option String → String) (place : Place) (cs : List Conversation) : Workroom where
  place := place
  savers := cs.map fun c => ⟨c, none, saving shown c⟩
  issued := []
  moved := []

inductive Reached (shown : Option String → String) (place : Place) (cs : List Conversation) :
    Workroom → Prop where
  | start : Reached shown place cs (opened shown place cs)
  | move {w w' : Workroom} (reached : Reached shown place cs w) (moves : Moves w w') :
      Reached shown place cs w'

end Workroom

-- Who was the last to move a file under a name, and what was in it.
def lastMoved (moved : List (Nat × Conversation)) (name : String) : Option (Nat × Conversation) :=
  moved.reverse.find? fun m => name = fileName m.2.id

theorem lastMoved_concat (moved : List (Nat × Conversation)) (i : Nat) (c : Conversation)
    (name : String) : lastMoved (moved ++ [(i, c)]) name =
      if name = fileName c.id then some (i, c) else lastMoved moved name := by
  unfold lastMoved
  rw [List.reverse_append, List.reverse_singleton, List.singleton_append, List.find?_cons]
  by_cases target : name = fileName c.id <;> simp [target]

theorem lastMoved_some {moved : List (Nat × Conversation)} {i : Nat} {c : Conversation}
    {name : String} (last : lastMoved moved name = some (i, c)) :
    (i, c) ∈ moved ∧ name = fileName c.id := by
  unfold lastMoved at last
  have holds := List.find?_some last
  exact ⟨List.mem_reverse.mp (List.mem_of_find?_eq_some last), by simpa using holds⟩

theorem lastMoved_none {moved : List (Nat × Conversation)} {name : String}
    (last : lastMoved moved name = none) : ∀ m ∈ moved, name ≠ fileName m.2.id := by
  unfold lastMoved at last
  intro m member
  have misses := List.find?_eq_none.mp last m (List.mem_reverse.mpr member)
  simpa using misses

-- How far a saver has come, and the call it has to have answered.
inductive Saver.Stage (place : Place) : Saver → Option FolderCall → Prop where
  | ended {saver : Saver} (ends : Ends saver.rest) : Saver.Stage place saver none
  | creating {c : Conversation} {rest : Unsaved} (usable : isUsable c.id = true)
      (creates : Creates c rest) : Saver.Stage place ⟨c, none, rest⟩ (some (.change .create))
  | naming {c : Conversation} {rest : Unsaved} (usable : isUsable c.id = true)
      (names : Names c rest) : Saver.Stage place ⟨c, none, rest⟩ (some .temporary)
  | writing {c : Conversation} {temporary : String} {rest : Unsaved}
      (usable : isUsable c.id = true) (writes : Writes c temporary rest) :
      Saver.Stage place ⟨c, some temporary, rest⟩ (some (.change (.write temporary c.toJson)))
  | moving {c : Conversation} {temporary : String} {rest : Unsaved}
      (usable : isUsable c.id = true) (renames : Renames c temporary rest)
      (written : place.find? temporary = some (.file c.toJson)) :
      Saver.Stage place ⟨c, some temporary, rest⟩ (some (.change (.rename temporary (fileName c.id))))
  | removing {c : Conversation} {temporary : String} {rest : Unsaved}
      (removes : Removes temporary rest) :
      Saver.Stage place ⟨c, some temporary, rest⟩ (some (.change (.remove temporary)))
  | moved {saver : Saver} (ends : saver.rest = .done (.ok ())) : Saver.Stage place saver none

theorem Ends.unfinished {rest : Unsaved} (ends : Ends rest) : rest ≠ .done (.ok ()) := by
  obtain ⟨e, rfl⟩ := ends
  nofun

theorem call_unfinished {rest : Unsaved} {call : FolderCall} {next : call.Answer → Unsaved}
    (calls : rest = .call call next) : rest ≠ .done (.ok ()) := by
  rw [calls]
  nofun

theorem calls_unfinished {rest : Unsaved} {call : FolderCall}
    {holds : (call.Answer → Unsaved) → Prop} (calls : ∃ next, rest = .call call next ∧ holds next) :
    rest ≠ .done (.ok ()) := by
  obtain ⟨next, same, _⟩ := calls
  exact call_unfinished same

theorem saving_unfinished (shown : Option String → String) (c : Conversation) :
    saving shown c ≠ .done (.ok ()) := by
  cases usable : isUsable c.id with
  | true => exact calls_unfinished (saving_creates shown usable)
  | false => exact (saving_ends shown usable).unfinished

-- What a saver's next call does to its own stage and to the folder.
structure Advances (w : Workroom) (saver saver' : Saver) (place : Place) (moves : Bool) : Prop where
  same : saver'.conversation = saver.conversation
  stage : ∃ awaited, Saver.Stage place saver' awaited
  finished : saver'.rest = .done (.ok ()) ↔ moves = true
  usable : moves = true → isUsable saver.conversation.id = true
  blocked : place = .blocked ↔ w.place = .blocked
  absent : place = .absent → w.place = .absent
  -- Its temporary file is its own affair.
  files : ∀ name, saver.temporary ≠ some name → place.find? name =
    if moves = true ∧ name = fileName saver.conversation.id then
      some (.file saver.conversation.toJson)
    else w.place.find? name

namespace Saver.Stage

theorem frame {place later : Place} {saver : Saver} {awaited : Option FolderCall}
    (stage : Saver.Stage place saver awaited)
    (same : ∀ name, saver.temporary = some name → later.find? name = place.find? name) :
    Saver.Stage later saver awaited := by
  cases stage with
  | ended ends => exact .ended ends
  | creating usable creates => exact .creating usable creates
  | naming usable names => exact .naming usable names
  | writing usable writes => exact .writing usable writes
  | moving usable renames written => exact .moving usable renames ((same _ rfl).trans written)
  | removing removes => exact .removing removes
  | moved ends => exact .moved ends

theorem awaits {place : Place} {saver : Saver} {awaited : Option FolderCall}
    (stage : Saver.Stage place saver awaited) {call : FolderCall} {next : call.Answer → Unsaved}
    (calls : saver.rest = .call call next) : awaited = some call := by
  cases stage with
  | ended ends =>
    obtain ⟨_, same⟩ := ends
    cases calls.symm.trans same
  | creating usable creates =>
    obtain ⟨_, same, _⟩ := creates
    cases calls.symm.trans same
    rfl
  | naming usable names =>
    obtain ⟨_, same, _⟩ := names
    cases calls.symm.trans same
    rfl
  | writing usable writes =>
    obtain ⟨_, same, _⟩ := writes
    cases calls.symm.trans same
    rfl
  | moving usable renames written =>
    obtain ⟨_, same, _⟩ := renames
    cases calls.symm.trans same
    rfl
  | removing removes =>
    obtain ⟨_, same, _⟩ := removes
    cases calls.symm.trans same
    rfl
  | moved ends => cases calls.symm.trans ends

variable {w : Workroom} {saver : Saver} {place : Place}

theorem change {c : FolderChange} {next : Except FileFault Unit → Unsaved}
    (stage : Saver.Stage w.place saver (some (.change c)))
    (calls : saver.rest = .call (.change c) next) (done : c.apply w.place = .ok place) :
    Advances w saver { saver with rest := next (.ok ()) } place c.isMove := by
  cases stage with
  | creating usable creates =>
    obtain ⟨_, same, names, _⟩ := creates
    cases calls.symm.trans same
    obtain ⟨clear, ⟨entries, rfl⟩, files⟩ := Place.create_done done
    exact ⟨rfl, ⟨_, .naming usable names⟩, iff_of_false (calls_unfinished names) nofun, nofun,
      iff_of_false nofun clear, nofun, fun name _ => files name⟩
  | writing usable writes =>
    obtain ⟨_, same, renames, _⟩ := writes
    cases calls.symm.trans same
    obtain ⟨clear, ⟨entries, rfl⟩, files⟩ := Place.write_done done
    have written := (files _).trans (if_pos rfl)
    refine ⟨rfl, ⟨_, .moving usable renames written⟩, iff_of_false (calls_unfinished renames) nofun,
      nofun, iff_of_false nofun clear, nofun, fun name other => ?_⟩
    rw [files, if_neg fun own => other (congrArg some own.symm)]
    rfl
  | moving usable renames written =>
    obtain ⟨_, same, ends, _⟩ := renames
    cases calls.symm.trans same
    obtain ⟨clear, ⟨entries, rfl⟩, files⟩ := Place.rename_done written done
    refine ⟨rfl, ⟨_, .moved ends⟩, iff_of_true ends rfl, fun _ => usable,
      iff_of_false nofun clear, nofun, fun name other => ?_⟩
    have apart : ¬ name = _ := fun own => other (congrArg some own.symm)
    rw [files, if_neg apart]
    simp [FolderChange.isMove]
  | removing removes =>
    obtain ⟨_, same, ends⟩ := removes
    cases calls.symm.trans same
    obtain ⟨clear, ⟨entries, rfl⟩, files⟩ := Place.remove_done done
    refine ⟨rfl, ⟨_, .ended (ends _)⟩, iff_of_false (ends _).unfinished nofun, nofun,
      iff_of_false nofun clear, nofun, fun name other => ?_⟩
    rw [files, if_neg fun own => other (congrArg some own.symm)]
    rfl

theorem fail {c : FolderChange} {next : Except FileFault Unit → Unsaved}
    (stage : Saver.Stage w.place saver (some (.change c)))
    (calls : saver.rest = .call (.change c) next) (e : FileFault) :
    Advances w saver { saver with rest := next (.error e) } w.place false := by
  have unmoved {rest : Unsaved} {awaited : Option FolderCall}
      (stage : Saver.Stage w.place { saver with rest := rest } awaited)
      (failed : rest ≠ .done (.ok ())) :
      Advances w saver { saver with rest := rest } w.place false :=
    ⟨rfl, ⟨awaited, stage⟩, iff_of_false failed nofun, nofun, Iff.rfl, id, fun _ _ => rfl⟩
  cases stage with
  | creating usable creates =>
    obtain ⟨_, same, _, ends⟩ := creates
    cases calls.symm.trans same
    exact unmoved (.ended (ends e)) (ends e).unfinished
  | writing usable writes =>
    obtain ⟨_, same, _, ends⟩ := writes
    cases calls.symm.trans same
    exact unmoved (.ended (ends e)) (ends e).unfinished
  | moving usable renames written =>
    obtain ⟨_, same, _, removes⟩ := renames
    cases calls.symm.trans same
    exact unmoved (.removing (removes e)) (calls_unfinished (removes e))
  | removing removes =>
    obtain ⟨_, same, ends⟩ := removes
    cases calls.symm.trans same
    exact unmoved (.ended (ends _)) (ends _).unfinished

theorem part {name content piece : String}
    (stage : Saver.Stage w.place saver (some (.change (.write name content))))
    (done : w.place.write none name piece = .ok place) :
    Advances w saver saver place false := by
  cases stage with
  | writing usable writes =>
    obtain ⟨clear, ⟨entries, rfl⟩, files⟩ := Place.write_done done
    refine ⟨rfl, ⟨_, .writing usable writes⟩, iff_of_false (calls_unfinished writes) nofun, nofun,
      iff_of_false nofun clear, nofun, fun x other => ?_⟩
    rw [files, if_neg fun own => other (congrArg some own.symm)]
    rfl

theorem name {next : String → Unsaved} (stage : Saver.Stage w.place saver (some .temporary))
    (calls : saver.rest = .call .temporary next) (temporary : String) :
    Advances w saver { saver with temporary := some temporary, rest := next temporary }
      w.place false := by
  cases stage with
  | naming usable names =>
    obtain ⟨_, same, writes⟩ := names
    cases calls.symm.trans same
    have unfinished := calls_unfinished (writes temporary)
    exact ⟨rfl, ⟨_, .writing usable (writes _)⟩, iff_of_false unfinished nofun, nofun, Iff.rfl, id,
      fun _ _ => rfl⟩

end Saver.Stage

structure Safe (before : Place) (cs : List Conversation) (w : Workroom) : Prop where
  saved : w.savers.map (·.conversation) = cs
  stages : ∀ (i : Nat) (saver : Saver), w.savers[i]? = some saver →
    ∃ awaited, Saver.Stage w.place saver awaited
  issued : ∀ (i : Nat) (saver : Saver) (name : String), w.savers[i]? = some saver →
    saver.temporary = some name → name ∈ w.issued
  apart : ∀ (i j : Nat) (a b : Saver) (name : String), w.savers[i]? = some a →
    w.savers[j]? = some b → a.temporary = some name → b.temporary = some name → i = j
  hidden : ∀ name ∈ w.issued, idOf? name = none
  movers : ∀ i c, (i, c) ∈ w.moved ↔
    ∃ temporary, w.savers[i]? = some ⟨c, temporary, .done (.ok ())⟩
  blocked : w.place = .blocked ↔ before = .blocked
  files : ∀ name, name ∉ w.issued → w.place.find? name =
    ((lastMoved w.moved name).map fun m => .file m.2.toJson).or (before.find? name)

-- A call of one saver as the others see it.
structure Stepped (w w' : Workroom) (i : Nat) (saver saver' : Saver) (moved : Bool) : Prop where
  waiting : w.savers[i]? = some saver
  unfinished : saver.rest ≠ .done (.ok ())
  advances : Advances w saver saver' w'.place moved
  savers : w'.savers = w.savers.set i saver'
  moved : w'.moved = if moved then w.moved ++ [(i, saver.conversation)] else w.moved
  own : ∀ name, saver'.temporary = some name →
    name ∈ w'.issued ∧ (name ∈ w.issued → saver.temporary = some name)
  grown : ∀ name ∈ w.issued, name ∈ w'.issued
  hidden : ∀ name ∈ w'.issued, idOf? name = none

theorem getElem?_replaced {l : List α} {i : Nat} {a : α} (there : l[i]? = some a) (b : α)
    (j : Nat) : (l.set i b)[j]? = if j = i then some b else l[j]? := by
  obtain ⟨inside, _⟩ := List.getElem?_eq_some_iff.mp there
  rw [List.getElem?_set]
  by_cases same : i = j
  · rw [if_pos same, if_pos inside, if_pos same.symm]
  · rw [if_neg same, if_neg (Ne.symm same)]

theorem hiddenName_hidden (stem : List Char) : idOf? (hiddenName stem) = none := by
  apply idOf_hidden
  unfold hiddenName
  rw [String.toList_ofList]
  rfl

namespace Safe

variable {before : Place} {cs : List Conversation} {w : Workroom}

theorem opened (shown : Option String → String) (place : Place) (cs : List Conversation) :
    Safe place cs (.opened shown place cs) := by
  have fresh {i : Nat} {saver : Saver}
      (there : (Workroom.opened shown place cs).savers[i]? = some saver) :
      ∃ c, saver = ⟨c, none, saving shown c⟩ := by
    unfold Workroom.opened at there
    rw [List.getElem?_map] at there
    obtain ⟨c, _, same⟩ := Option.map_eq_some_iff.mp there
    exact ⟨c, same.symm⟩
  refine ⟨?saved, ?stages, ?issued, ?apart, nofun, ?movers, Iff.rfl, fun _ _ => rfl⟩
  case saved =>
    unfold Workroom.opened
    simp [Function.comp_def]
  case stages =>
    intro i saver there
    obtain ⟨c, rfl⟩ := fresh there
    cases usable : isUsable c.id with
    | true => exact ⟨_, .creating usable (saving_creates shown usable)⟩
    | false => exact ⟨_, .ended (saving_ends shown usable)⟩
  case issued =>
    intro i saver name there temporary
    obtain ⟨c, rfl⟩ := fresh there
    cases temporary
  case apart =>
    intro i j a b name there _ temporary
    obtain ⟨c, rfl⟩ := fresh there
    cases temporary
  case movers =>
    intro i c
    refine iff_of_false nofun ?_
    rintro ⟨temporary, there⟩
    obtain ⟨c', same⟩ := fresh there
    exact saving_unfinished shown c' (congrArg Saver.rest same).symm

theorem stepped {w' : Workroom} (safe : Safe before cs w) (moves : Workroom.Moves w w') :
    ∃ i saver saver' moved, Stepped w w' i saver saver' moved := by
  -- Only a saver that is given a name holds another one than before.
  have kept {i : Nat} {saver saver' : Saver} (waiting : w.savers[i]? = some saver)
      (same : saver'.temporary = saver.temporary) (name : String)
      (own : saver'.temporary = some name) :
      name ∈ w.issued ∧ (name ∈ w.issued → saver.temporary = some name) :=
    ⟨safe.issued i saver name waiting (same ▸ own), fun _ => same ▸ own⟩
  cases moves with
  | @change i saver c next place waiting calls done =>
    obtain ⟨awaited, stage⟩ := safe.stages i saver waiting
    cases stage.awaits calls
    exact ⟨i, saver, _, c.isMove, waiting, call_unfinished calls, stage.change calls done, rfl, rfl,
      kept waiting rfl, fun _ => id, safe.hidden⟩
  | @fail i saver c next waiting calls e =>
    obtain ⟨awaited, stage⟩ := safe.stages i saver waiting
    cases stage.awaits calls
    exact ⟨i, saver, _, false, waiting, call_unfinished calls, stage.fail calls e, rfl, rfl,
      kept waiting rfl, fun _ => id, safe.hidden⟩
  | @part i saver name content piece next place waiting calls done =>
    obtain ⟨awaited, stage⟩ := safe.stages i saver waiting
    cases stage.awaits calls
    have unchanged : w.savers = w.savers.set i saver := by
      obtain ⟨inside, rfl⟩ := List.getElem?_eq_some_iff.mp waiting
      exact (List.set_getElem_self inside).symm
    exact ⟨i, saver, saver, false, waiting, call_unfinished calls, stage.part done, unchanged, rfl,
      kept waiting rfl, fun _ => id, safe.hidden⟩
  | @name i saver next waiting calls stem fresh =>
    obtain ⟨awaited, stage⟩ := safe.stages i saver waiting
    cases stage.awaits calls
    refine ⟨i, saver, _, false, waiting, call_unfinished calls, stage.name calls (hiddenName stem), rfl,
      rfl, ?own, fun _ => List.mem_cons_of_mem _, ?hidden⟩
    case own =>
      rintro name ⟨⟩
      exact ⟨List.mem_cons_self, fun there => absurd there fresh⟩
    case hidden =>
      intro name there
      rcases List.mem_cons.mp there with rfl | before
      · exact hiddenName_hidden stem
      · exact safe.hidden name before

end Safe

namespace Stepped

variable {before : Place} {cs : List Conversation} {w w' : Workroom} {i : Nat}
  {saver saver' : Saver} {moved : Bool}

theorem replaced (step : Stepped w w' i saver saver' moved) (j : Nat) :
    w'.savers[j]? = if j = i then some saver' else w.savers[j]? := by
  rw [step.savers]
  exact getElem?_replaced step.waiting saver' j

theorem saved (step : Stepped w w' i saver saver' moved) :
    w'.savers.map (·.conversation) = w.savers.map (·.conversation) := by
  apply List.ext_getElem?
  intro j
  rw [List.getElem?_map, List.getElem?_map, step.replaced]
  by_cases here : j = i
  · rw [if_pos here, here, step.waiting, Option.map_some, Option.map_some, step.advances.same]
  · rw [if_neg here]

-- What the others have written is still there.
theorem stages (step : Stepped w w' i saver saver' moved) (safe : Safe before cs w) (j : Nat)
    (other : Saver) (there : w'.savers[j]? = some other) :
    ∃ awaited, Saver.Stage w'.place other awaited := by
  rw [step.replaced] at there
  by_cases here : j = i
  · rw [if_pos here] at there
    cases there
    exact step.advances.stage
  · rw [if_neg here] at there
    obtain ⟨awaited, stage⟩ := safe.stages j other there
    refine ⟨awaited, stage.frame fun name temporary => ?_⟩
    have issued := safe.issued j other name there temporary
    rw [step.advances.files name, if_neg]
    · rintro ⟨moves, target⟩
      have named := safe.hidden name issued
      rw [target, idOf_fileName (step.advances.usable moves)] at named
      cases named
    · intro mine
      exact here (safe.apart j i other saver name there step.waiting temporary mine)

theorem issued (step : Stepped w w' i saver saver' moved) (safe : Safe before cs w) (j : Nat)
    (other : Saver) (name : String) (there : w'.savers[j]? = some other)
    (temporary : other.temporary = some name) : name ∈ w'.issued := by
  rw [step.replaced] at there
  by_cases here : j = i
  · rw [if_pos here] at there
    cases there
    exact (step.own name temporary).1
  · rw [if_neg here] at there
    exact step.grown name (safe.issued j other name there temporary)

-- Nobody else held the name that the saver holds now.
theorem alone (step : Stepped w w' i saver saver' moved) (safe : Safe before cs w) {j : Nat}
    {other : Saver} {name : String} (there : w.savers[j]? = some other)
    (temporary : other.temporary = some name) (mine : saver'.temporary = some name) : j = i :=
  safe.apart j i other saver name there step.waiting temporary
    ((step.own name mine).2 (safe.issued j other name there temporary))

theorem apart (step : Stepped w w' i saver saver' moved) (safe : Safe before cs w) (j k : Nat)
    (a b : Saver) (name : String) (first : w'.savers[j]? = some a) (second : w'.savers[k]? = some b)
    (one : a.temporary = some name) (another : b.temporary = some name) : j = k := by
  rw [step.replaced] at first second
  by_cases here : j = i
  · by_cases also : k = i
    · rw [here, also]
    · rw [if_pos here] at first
      rw [if_neg also] at second
      cases first
      exact absurd (step.alone safe second another one) also
  · by_cases also : k = i
    · rw [if_neg here] at first
      rw [if_pos also] at second
      cases second
      exact absurd (step.alone safe first one another) here
    · rw [if_neg here] at first
      rw [if_neg also] at second
      exact safe.apart j k a b name first second one another

-- The saver is listed as one that moved its file as soon as it has nothing left to do.
theorem movers (step : Stepped w w' i saver saver' moved) (safe : Safe before cs w) (j : Nat)
    (c : Conversation) : (j, c) ∈ w'.moved ↔
      ∃ temporary, w'.savers[j]? = some ⟨c, temporary, .done (.ok ())⟩ := by
  have listed : (j, c) ∈ w'.moved ↔
      (j, c) ∈ w.moved ∨ moved = true ∧ j = i ∧ c = saver.conversation := by
    rw [step.moved]
    cases moved <;> simp
  rw [listed, safe.movers, step.replaced]
  by_cases here : j = i
  · rw [if_pos here, here, step.waiting]
    constructor
    · rintro (⟨temporary, same⟩ | ⟨moves, _, rfl⟩)
      · exact absurd (congrArg Saver.rest (Option.some.inj same)) step.unfinished
      · refine ⟨saver'.temporary, congrArg some ?_⟩
        rw [← step.advances.same, ← step.advances.finished.mpr moves]
    · rintro ⟨temporary, same⟩
      have whole := Option.some.inj same
      refine .inr ⟨step.advances.finished.mp (congrArg Saver.rest whole), rfl, ?_⟩
      rw [← step.advances.same, whole]
  · rw [if_neg here]
    simp [here]

theorem files (step : Stepped w w' i saver saver' moved) (safe : Safe before cs w) (name : String)
    (unissued : name ∉ w'.issued) : w'.place.find? name =
      ((lastMoved w'.moved name).map fun m => .file m.2.toJson).or (before.find? name) := by
  have old : name ∉ w.issued := fun there => unissued (step.grown name there)
  have apart : saver.temporary ≠ some name := fun mine =>
    old (safe.issued i saver name step.waiting mine)
  rw [step.advances.files name apart, safe.files name old, step.moved]
  cases moved with
  | false => rfl
  | true =>
    rw [if_pos rfl, lastMoved_concat]
    by_cases target : name = fileName saver.conversation.id
    · simp [target]
    · simp [target]

theorem safe (step : Stepped w w' i saver saver' moved) (safe : Safe before cs w) :
    Safe before cs w' where
  saved := step.saved.trans safe.saved
  stages := step.stages safe
  issued := step.issued safe
  apart := step.apart safe
  hidden := step.hidden
  movers := step.movers safe
  blocked := step.advances.blocked.trans safe.blocked
  files := step.files safe

end Stepped

theorem Workroom.Reached.safe {shown : Option String → String} {before : Place}
    {cs : List Conversation} {w : Workroom} (reached : Reached shown before cs w) :
    Safe before cs w := by
  induction reached with
  | start => exact .opened shown before cs
  | move _ moves safe =>
    obtain ⟨i, saver, saver', moved, step⟩ := safe.stepped moves
    exact step.safe safe

namespace Workroom

section Progress

variable {shown : Option String → String} {before : Place} {cs : List Conversation}
  {entries : Folder} {savers : List Saver} {issued : List String} {done : List (Nat × Conversation)}
  {i : Nat} {c : Conversation} {t : String} {rest : Unsaved}
  (reached : Reached shown before cs ⟨.folder entries, savers, issued, done⟩)
include reached

theorem Reached.creates (waiting : savers[i]? = some ⟨c, none, rest⟩) (creates : Creates c rest) :
    ∃ next, Names c next ∧ Reached shown before cs
      ⟨.folder entries, savers.set i ⟨c, none, next⟩, issued, done⟩ := by
  obtain ⟨_, calls, names, _⟩ := creates
  have moves := Moves.change (w := ⟨.folder entries, savers, issued, done⟩) waiting calls rfl
  exact ⟨_, names, reached.move moves⟩

theorem Reached.names (waiting : savers[i]? = some ⟨c, none, rest⟩) (names : Names c rest)
    (stem : List Char) (fresh : hiddenName stem ∉ issued) : ∃ next, Writes c (hiddenName stem) next ∧
      Reached shown before cs ⟨.folder entries, savers.set i ⟨c, some (hiddenName stem), next⟩,
        hiddenName stem :: issued, done⟩ := by
  obtain ⟨_, calls, writes⟩ := names
  have moves := Moves.name (w := ⟨.folder entries, savers, issued, done⟩) waiting calls stem fresh
  exact ⟨_, writes _, reached.move moves⟩

theorem Reached.begins (waiting : savers[i]? = some ⟨c, some t, rest⟩) (writes : Writes c t rest)
    (clear : entries.find? t ≠ some .folder) (piece : String) : Reached shown before cs
      ⟨.folder (entries.insert t (.file piece)), savers, issued, done⟩ := by
  obtain ⟨_, calls, _⟩ := writes
  exact reached.move (.part waiting calls (Place.write_file clear piece))

theorem Reached.writes (waiting : savers[i]? = some ⟨c, some t, rest⟩) (writes : Writes c t rest)
    (clear : entries.find? t ≠ some .folder) : ∃ next, Renames c t next ∧ Reached shown before cs
      ⟨.folder (entries.insert t (.file c.toJson)), savers.set i ⟨c, some t, next⟩, issued,
        done⟩ := by
  obtain ⟨_, calls, renames, _⟩ := writes
  have moves := Moves.change (w := ⟨.folder entries, savers, issued, done⟩) waiting calls
    (Place.write_file clear c.toJson)
  exact ⟨_, renames, reached.move moves⟩

theorem Reached.renames (waiting : savers[i]? = some ⟨c, some t, rest⟩) (renames : Renames c t rest)
    (written : entries.find? t = some (.file c.toJson))
    (clear : entries.find? (fileName c.id) ≠ some .folder) : Reached shown before cs
      ⟨.folder ((entries.erase t).insert (fileName c.id) (.file c.toJson)),
        savers.set i ⟨c, some t, .done (.ok ())⟩, issued, done ++ [(i, c)]⟩ := by
  obtain ⟨_, calls, ends, _⟩ := renames
  have moves := Moves.change (w := ⟨.folder entries, savers, issued, done⟩) waiting calls
    (Place.rename_file written clear)
  rw [ends] at moves
  exact reached.move moves

theorem Reached.refuses (waiting : savers[i]? = some ⟨c, some t, rest⟩) (renames : Renames c t rest)
    (e : FileFault) : ∃ next, Removes t next ∧
      Moves ⟨.folder entries, savers, issued, done⟩
        ⟨.folder entries, savers.set i ⟨c, some t, next⟩, issued, done⟩ ∧
      Reached shown before cs ⟨.folder entries, savers.set i ⟨c, some t, next⟩, issued, done⟩ := by
  obtain ⟨_, calls, _, removes⟩ := renames
  have moves := Moves.fail (w := ⟨.folder entries, savers, issued, done⟩) waiting calls e
  exact ⟨_, removes e, moves, reached.move moves⟩

theorem Reached.removes (waiting : savers[i]? = some ⟨c, some t, rest⟩) (removes : Removes t rest)
    (left : ∃ content, entries.find? t = some (.file content)) : ∃ e, Reached shown before cs
      ⟨.folder (entries.erase t), savers.set i ⟨c, some t, .done (.error e)⟩, issued, done⟩ := by
  obtain ⟨_, calls, ends⟩ := removes
  obtain ⟨e, ended⟩ := ends (.ok ())
  obtain ⟨_, there⟩ := left
  have removed : (Place.folder entries).remove none t = .ok (.folder (entries.erase t)) := by
    rw [Place.remove_folder, there]
  have moves := Moves.change (w := ⟨.folder entries, savers, issued, done⟩) waiting calls removed
  rw [ended] at moves
  exact ⟨e, reached.move moves⟩

end Progress

end Workroom

end Colloquy
