import Colloquy.Disk
import Colloquy.Proofs.Resumption
import Colloquy.Proofs.Savers

/-! What readers are told while savers are at work. -/
namespace Colloquy

open Store.Files

namespace Place

variable (limit : Option Nat) (p : Place)

def loaded (id : String) : Except StoreError (Option Conversation) :=
  (((Store.files (access limit)).load id).run p).1

def listed : Except StoreError (List String) := ((Store.files (access limit)).list.run p).1

variable {limit p} {p' : Place} {id : String}

theorem loaded_congr (same : isUsable id = true →
      p.read limit (fileName id) = p'.read limit (fileName id)) :
    p.loaded limit id = p'.loaded limit id := by
  have answer (q : Place) : q.loaded limit id =
      (StateT.run (Store.Files.load (access limit) id) q).1 := rfl
  rw [answer, answer]
  cases usable : isUsable id with
  | false =>
    rw [load_refused _ usable]
    rfl
  | true => rw [load_run usable, load_run usable, same usable]

-- A file is read as before where the folder has not changed about it. A name that is too long
-- is missing only as long as there is no folder.
theorem read_same {name : String} (same : p'.find? name = p.find? name)
    (blocked : p' = .blocked ↔ p = .blocked) (absent : p' = .absent → p = .absent)
    (fits : p = .absent → checkName limit name = .ok ()) :
    p'.read limit name = p.read limit name := by
  cases p with
  | absent =>
    cases p' with
    | absent => rfl
    | blocked => cases blocked.mp rfl
    | folder later =>
      have missing : later.find? name = none := same
      simp [read, entries?, fits rfl, missing, bind, Except.bind]
  | blocked =>
    rw [blocked.mpr rfl]
  | folder entries =>
    cases p' with
    | absent => cases absent rfl
    | blocked => cases blocked.mp rfl
    | folder later =>
      have unchanged : later.find? name = entries.find? name := same
      simp only [read, entries?, unchanged, bind, Except.bind]

theorem checkName_long {name : String} (long : checkName limit name ≠ .ok ()) :
    checkName limit name = .error .nameTooLong := by
  unfold checkName at long ⊢
  split
  · rfl
  · rename_i fits
    rw [if_neg fits] at long
    exact absurd rfl long

theorem listed_there {ids : List String} (list : p.listed limit = .ok ids) {id : String}
    (shown : id ∈ ids) : idOf? (fileName id) = some id ∧ (p.find? (fileName id)).isSome = true := by
  change (StateT.run (Store.Files.list (access limit)) p).1 = _ at list
  rw [list_run] at list
  cases p with
  | absent =>
    cases list
    cases shown
  | blocked => cases list
  | folder entries =>
    change Except.ok (Lexicon.ofList (entries.keys.filterMap idOf?)).toList = _ at list
    cases list
    rw [Lexicon.mem_toList, Lexicon.mem_ofList, List.mem_filterMap] at shown
    obtain ⟨name, there, named⟩ := shown
    rw [idOf_some named]
    exact ⟨named, Table.mem_keys.mp there⟩

end Place

namespace Safe

variable {before : Place} {cs : List Conversation} {w : Workroom} {id : String}

theorem unissued (safe : Safe before cs w) (named : idOf? (fileName id) = some id) :
    fileName id ∉ w.issued := by
  intro there
  rw [safe.hidden _ there] at named
  cases named

theorem found_whole (safe : Safe before cs w) (usable : isUsable id = true) :
    (w.place.find? (fileName id) = before.find? (fileName id) ∧ ∀ m ∈ w.moved, m.2.id ≠ id) ∨
    ∃ i c, lastMoved w.moved (fileName id) = some (i, c) ∧ c.id = id ∧
      w.place.find? (fileName id) = some (.file c.toJson) := by
  rw [safe.files _ (safe.unissued (idOf_fileName usable))]
  cases last : lastMoved w.moved (fileName id) with
  | none =>
    refine .inl ⟨rfl, fun m member same => ?_⟩
    exact lastMoved_none last m member (congrArg fileName same.symm)
  | some m =>
    obtain ⟨_, target⟩ := lastMoved_some last
    exact .inr ⟨m.1, m.2, rfl, fileName_injective target.symm, rfl⟩

theorem listed_known (safe : Safe before cs w) {limit : Option Nat} {ids : List String}
    (list : w.place.listed limit = .ok ids) (shown : id ∈ ids) : fileName id ∉ w.issued ∧
      ((before.find? (fileName id)).isSome = true ∨ ∃ m ∈ w.moved, m.2.id = id) := by
  obtain ⟨named, there⟩ := Place.listed_there list shown
  refine ⟨safe.unissued named, ?_⟩
  rw [safe.files _ (safe.unissued named)] at there
  cases last : lastMoved w.moved (fileName id) with
  | none =>
    rw [last] at there
    exact .inl there
  | some m =>
    obtain ⟨member, target⟩ := lastMoved_some last
    exact .inr ⟨m, member, fileName_injective target.symm⟩

end Safe

namespace Stepped

variable {before : Place} {cs : List Conversation} {w w' : Workroom} {i : Nat}
  {saver saver' : Saver} {moved : Bool} {id : String}

-- Only who moves a file to its place changes what is found under an id.
theorem loaded_same (step : Stepped w w' i saver saver' moved) (safe : Safe before cs w)
    {limit : Option Nat} (other : moved = true → saver.conversation.id ≠ id)
    (fits : w.place = .absent → Place.checkName limit (fileName id) = .ok ()) :
    w'.place.loaded limit id = w.place.loaded limit id := by
  refine Place.loaded_congr fun usable => ?_
  refine Place.read_same ?_ step.advances.blocked step.advances.absent fits
  have apart : saver.temporary ≠ some (fileName id) := fun mine =>
    safe.unissued (idOf_fileName usable) (safe.issued i saver _ step.waiting mine)
  rw [step.advances.files _ apart, if_neg]
  rintro ⟨moves, same⟩
  exact other moves (fileName_injective same).symm

theorem loaded_or_moved (step : Stepped w w' i saver saver' moved) (safe : Safe before cs w)
    (limit : Option Nat) (id : String) :
    w'.place.loaded limit id = w.place.loaded limit id ∨
    (∃ i c temporary, w'.moved = w.moved ++ [(i, c)] ∧ c.id = id ∧
      w'.savers[i]? = some ⟨c, temporary, .done (.ok ())⟩) ∨
    w.place = .absent ∧ Place.checkName limit (fileName id) = .error .nameTooLong := by
  by_cases fits : w.place = .absent → Place.checkName limit (fileName id) = .ok ()
  · by_cases target : moved = true ∧ saver.conversation.id = id
    · obtain ⟨rfl, same⟩ := target
      refine .inr (.inl ⟨i, saver.conversation, saver'.temporary, step.moved, same, ?_⟩)
      rw [step.replaced, if_pos rfl, ← step.advances.same, ← step.advances.finished.mpr rfl]
    · exact .inl (step.loaded_same safe (fun moves same => target ⟨moves, same⟩) fits)
  · obtain ⟨absent, long⟩ := Classical.not_imp.mp fits
    exact .inr (.inr ⟨absent, Place.checkName_long long⟩)

end Stepped

namespace Workroom

variable {shown : Option String → String} {before : Place} {cs : List Conversation}

-- Wherever the savers are stopped. Those that moved their files are those that succeeded; what is
-- under an id is what was there or what the last of them saved, and only a move to it changes what
-- is loaded, but that a name which is too long is no longer missing once there is a folder. What is
-- listed was there before or was moved there.
theorem snapshots_whole {w : Workroom} (reached : Reached shown before cs w) :
    w.savers.map (·.conversation) = cs ∧
    (∀ i c, (i, c) ∈ w.moved ↔
      ∃ temporary, w.savers[i]? = some ⟨c, temporary, .done (.ok ())⟩) ∧
    (∀ id, isUsable id = true →
      (w.place.find? (fileName id) = before.find? (fileName id) ∧ ∀ m ∈ w.moved, m.2.id ≠ id) ∨
      ∃ i c, lastMoved w.moved (fileName id) = some (i, c) ∧ c.id = id ∧
        w.place.find? (fileName id) = some (.file c.toJson)) ∧
    (∀ w', Moves w w' → ∀ limit id,
      w'.place.loaded limit id = w.place.loaded limit id ∨
      (∃ i c temporary, w'.moved = w.moved ++ [(i, c)] ∧ c.id = id ∧
        w'.savers[i]? = some ⟨c, temporary, .done (.ok ())⟩) ∨
      w.place = .absent ∧ Place.checkName limit (fileName id) = .error .nameTooLong) ∧
    ∀ limit ids, w.place.listed limit = .ok ids → ∀ id ∈ ids, fileName id ∉ w.issued ∧
      ((before.find? (fileName id)).isSome = true ∨ ∃ m ∈ w.moved, m.2.id = id) := by
  have safe := reached.safe
  refine ⟨safe.saved, safe.movers, fun id => safe.found_whole, fun w' moves limit id => ?_,
    fun limit ids list id => safe.listed_known list⟩
  obtain ⟨i, saver, saver', moved, step⟩ := safe.stepped moves
  exact step.loaded_or_moved safe limit id

-- One saver has part of its file written before another moves its own over the same conversation,
-- and is refused when it comes to move its file as well.
theorem outrun (shown : Option String → String) {a b : Conversation} {entries : Folder}
    (usable : isUsable a.id = true) (same : b.id = a.id)
    (plain : ∀ name, entries.find? name ≠ some .folder) (piece : String) (e : FileFault) :
    ∃ half full refused ended : Workroom,
      (Reached shown (.folder entries) [a, b] half ∧ half.moved = [] ∧
        hiddenName [] ∈ half.issued ∧ half.place.find? (hiddenName []) = some (.file piece)) ∧
      (Reached shown (.folder entries) [a, b] full ∧ full.moved = [(1, b)] ∧
        Moves full refused ∧ refused.moved = [(1, b)]) ∧
      Reached shown (.folder entries) [a, b] ended ∧ ended.moved = [(1, b)] ∧
        ∃ e, ended.savers[0]? = some ⟨a, some (hiddenName []), .done (.error e)⟩ := by
  have named : isUsable b.id = true := same ▸ usable
  have apart : hiddenName ['a'] ≠ hiddenName [] := by decide
  have elsewhere (stem : List Char) : hiddenName stem ≠ fileName b.id := by
    intro clash
    have hidden := hiddenName_hidden stem
    rw [clash, idOf_fileName named] at hidden
    cases hidden
  have opened : Reached shown (.folder entries) [a, b] ⟨.folder entries,
    [⟨a, none, saving shown a⟩, ⟨b, none, saving shown b⟩], [], []⟩ := .start
  obtain ⟨_, names, begun⟩ := opened.creates (i := 0) rfl (saving_creates shown usable)
  obtain ⟨_, others, begun⟩ := begun.creates (i := 1) rfl (saving_creates shown named)
  obtain ⟨_, writes, begun⟩ := begun.names (i := 0) rfl names [] List.not_mem_nil
  obtain ⟨_, other, begun⟩ := begun.names (i := 1) rfl others ['a'] (by simpa using apart)
  have half := begun.begins (i := 0) rfl writes (plain _) piece
  obtain ⟨_, moves, full⟩ := half.writes (i := 1) rfl other (by simp [apart, plain])
  obtain ⟨_, renames, full⟩ := full.writes (i := 0) rfl writes (by simp [apart.symm])
  have full := full.renames (i := 1) rfl moves (by simp [apart])
    (by simp [(elsewhere _).symm, plain])
  obtain ⟨_, removes, refused, left⟩ := full.refuses (i := 0) rfl renames e
  obtain ⟨e, ended⟩ := left.removes (i := 0) rfl removes
    ⟨a.toJson, by simp [elsewhere, apart.symm, Table.find?_erase]⟩
  refine ⟨_, _, _, _, ⟨half, rfl, ?issued, ?part⟩, ⟨full, rfl, refused, rfl⟩, ended, rfl, e, rfl⟩
  case issued => exact List.mem_cons_of_mem _ (List.mem_singleton_self _)
  case part => simp [Place.find?]

end Workroom

theorem shopper_outrun :
    let shown : Option String → String := (·.getD ".")
    let name := fileName shopper.id
    let before := Place.folder (Table.empty.insert name (.file shopper.toJson))
    let second : Conversation := { shopper with turn := 2 }
    let third : Conversation := { shopper with turn := 3 }
    ∃ half full refused ended : Workroom,
      (Workroom.Reached shown before [second, third] half ∧
        half.place.find? (hiddenName []) = some (.file "\x7b") ∧
        half.place.find? name = some (.file shopper.toJson) ∧
        ∀ ids, half.place.listed none = .ok ids → ∀ id ∈ ids, fileName id ≠ hiddenName []) ∧
      (Workroom.Reached shown before [second, third] full ∧ Workroom.Moves full refused ∧
        ∀ limit id, refused.place.loaded limit id = full.place.loaded limit id) ∧
      Workroom.Reached shown before [second, third] ended ∧
        (∃ e, ended.savers[0]? = some ⟨second, some (hiddenName []), .done (.error e)⟩) ∧
        ended.place.find? name = some (.file third.toJson) := by
  intro shown name before second third
  have usable : isUsable shopper.id = true := by decide
  have plain (x : String) : (Table.empty.insert name (.file shopper.toJson)).find? x ≠
      some Entry.folder := by
    rw [Table.find?_insert]
    split <;> nofun
  have last {w : Workroom} (reached : Workroom.Reached shown before [second, third] w)
      (moved : w.moved = [(1, third)]) : w.place.find? name = some (.file third.toJson) := by
    obtain ⟨_, _, files, _⟩ := Workroom.snapshots_whole reached
    rcases files shopper.id usable with ⟨_, nobody⟩ | ⟨i, c, last, _, found⟩
    · exact absurd rfl (nobody (1, third) (moved ▸ List.mem_singleton_self _))
    · obtain ⟨member, _⟩ := lastMoved_some last
      rw [moved] at member
      cases List.mem_singleton.mp member
      exact found
  obtain ⟨half, full, refused, ended, ⟨begun, nobody, issued, part⟩, ⟨arrived, moved, moves, still⟩,
    left, final, failed⟩ :=
    Workroom.outrun shown (a := second) (b := third) usable rfl plain "\x7b" .notAFolder
  refine ⟨half, full, refused, ended, ⟨begun, part, ?old, ?listed⟩, ⟨arrived, moves, ?same⟩, left,
    failed, last left final⟩
  case old =>
    obtain ⟨_, _, files, _⟩ := Workroom.snapshots_whole begun
    rcases files shopper.id usable with ⟨same, _⟩ | ⟨i, c, moved, _⟩
    · exact same.trans (by simp [Place.find?, name])
    · rw [nobody] at moved
      cases moved
  case listed =>
    intro ids list id shown same
    obtain ⟨_, _, _, _, lists⟩ := Workroom.snapshots_whole begun
    exact (lists none ids list id shown).1 (same ▸ issued)
  case same =>
    intro limit id
    obtain ⟨_, _, _, steps, _⟩ := Workroom.snapshots_whole arrived
    rcases steps refused moves limit id with same | ⟨i, c, temporary, grown, _⟩ | ⟨absent, _⟩
    · exact same
    · rw [still, moved] at grown
      cases grown
    · have there := last arrived moved
      rw [absent] at there
      cases there

section TooLong

variable {limit : Option Nat} {id : String}

theorem Place.loaded_absent (limit : Option Nat) (usable : isUsable id = true) :
    Place.absent.loaded limit id = .ok none :=
  congrArg Prod.fst (load_run usable .absent)

theorem Place.loaded_long (usable : isUsable id = true)
    (long : checkName limit (fileName id) = .error .nameTooLong) (entries : Folder) :
    (Place.folder entries).loaded limit id =
      .error (failure "read" (fileName id) .nameTooLong) := by
  have read : (Place.folder entries).read limit (fileName id) = .error .nameTooLong := by
    simp only [Place.read, entries?, long, bind, Except.bind]
  change (StateT.run (Store.Files.load (access limit) id) _).1 = _
  rw [load_run usable, read]

theorem Store.save_long {c : Conversation} (usable : isUsable c.id = true)
    (long : Place.checkName limit (fileName c.id) = .error .nameTooLong)
    (short : Place.checkName limit (Place.temporaryName 0) = .ok ()) :
    ∃ e entries, ((Store.files (Place.access limit)).save c).run .absent =
      (.error e, .folder entries) := by
  let t := Place.temporaryName 0
  change Place.checkName limit t = .ok () at short
  let written : Folder := Table.empty.insert t (.file c.toJson)
  have source : written.find? t = some (.file c.toJson) := by
    rw [Table.find?_insert, if_pos rfl]
  have wrote : (Place.folder .empty).write limit t c.toJson = .ok (.folder written) := by
    simp only [Place.write, Place.entries?, short, bind, Except.bind]
    rfl
  have failed : (Place.folder written).rename limit t (fileName c.id) = .error .nameTooLong := by
    simp only [Place.rename, Place.read, Place.entries?, short, long, source, bind, Except.bind]
    rfl
  have cleared : (Place.folder written).remove limit t = .ok (.folder (written.erase t)) := by
    simp only [Place.remove, Place.entries?, short, source, bind, Except.bind]
    rfl
  exact ⟨_, _, (save_created usable rfl).trans (put_unmoved wrote failed cleared)⟩

end TooLong

section Repeated

variable (n : Nat)

theorem isUsable_repeated : isUsable (String.ofList (List.replicate (n + 1) 'a')) = true := by
  unfold isUsable
  rw [String.toList_ofList, List.replicate_succ]
  have chars : (List.replicate n 'a').all isIdChar = true := by
    rw [List.all_replicate]
    split <;> rfl
  simp only [List.all_cons, chars]
  rfl

theorem fileName_size (id : String) : (fileName id).utf8ByteSize = id.utf8ByteSize + 5 := by
  unfold fileName
  rw [String.ofList_append, String.utf8ByteSize_append, String.ofList_toList]
  rfl

theorem repeated_size : (String.ofList (List.replicate n 'a')).utf8ByteSize = n := by
  rw [String.utf8ByteSize_ofList]
  induction n with
  | zero => rfl
  | succ n ih =>
    rw [List.replicate_succ, String.utf8Len, ih]
    rfl

end Repeated

-- The first save of a conversation whose name is too long brings about the folder and fails, and
-- where no conversation was found before, loading it is an error from then on.
theorem long_name_noticed : ∃ (c : Conversation) (p : Place) (e e' : StoreError),
    isUsable c.id = true ∧
    ((Store.files (Place.access (some Disk.nameLimit))).save c).run .absent = (.error e, p) ∧
    Place.absent.loaded (some Disk.nameLimit) c.id = .ok none ∧
    p.loaded (some Disk.nameLimit) c.id = .error e' := by
  let c : Conversation := { shopper with id := String.ofList (List.replicate 251 'a') }
  have usable : isUsable c.id = true := isUsable_repeated 250
  have long : Place.checkName (some Disk.nameLimit) (fileName c.id) = .error .nameTooLong := by
    apply if_pos
    rw [fileName_size, repeated_size]
    decide
  obtain ⟨e, entries, save⟩ := Store.save_long usable long rfl
  exact ⟨c, .folder entries, e, _, usable, save, Place.loaded_absent _ usable,
    Place.loaded_long usable long entries⟩

end Colloquy
