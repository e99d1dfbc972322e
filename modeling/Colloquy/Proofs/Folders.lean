import Colloquy.Proofs.Tables
import Colloquy.Store.Files
import Mathlib.Data.List.Basic

/-! Files by their names, and what each call on a folder or a store answers and leaves. -/
namespace Colloquy

theorem bind_run {x : StateM σ α} {f : α → StateM σ β} {s s' : σ} {a : α}
    (first : x.run s = (a, s')) : (x >>= f).run s = (f a).run s' := by
  rw [StateT.run_bind, first]
  rfl

namespace Store.Files

theorem idOf_some {name id : String} (listed : idOf? name = some id) : fileName id = name := by
  unfold idOf? at listed
  dsimp only at listed
  split at listed
  · rename_i parts
    cases Option.some.inj listed
    unfold fileName
    rw [String.toList_ofList, ← parts.1, String.ofList_toList]
  · cases listed

theorem idOf_fileName {id : String} (usable : isUsable id = true) : idOf? (fileName id) = some id := by
  have stem : (fileName id).toList.take ((fileName id).toList.length - extension.length) =
      id.toList := by
    unfold fileName
    rw [String.toList_ofList, List.length_append, Nat.add_sub_cancel, List.take_left]
  unfold idOf?
  dsimp only
  rw [stem, String.ofList_toList, if_pos]
  refine ⟨String.toList_ofList, ?_, ?_⟩
  · intro empty
    unfold isUsable at usable
    rw [empty] at usable
    cases usable
  · intro dotted
    unfold isUsable at usable
    cases chars : id.toList with
    | nil => rw [chars] at dotted; cases dotted
    | cons c rest =>
      rw [chars] at dotted usable
      cases Option.some.inj dotted
      cases usable

theorem idOf_hidden {name : String} (hidden : name.toList.head? = some '.') : idOf? name = none := by
  unfold idOf?
  dsimp only
  split
  · rename_i parts
    obtain ⟨whole, some, notHidden⟩ := parts
    rw [whole, List.head?_append_of_ne_nil _ some] at hidden
    exact absurd hidden notHidden
  · rfl

theorem fileName_injective {a b : String} (same : fileName a = fileName b) : a = b := by
  unfold fileName at same
  have chars := congrArg String.toList same
  rw [String.toList_ofList, String.toList_ofList] at chars
  exact String.toList_injective (List.append_cancel_right chars)

end Store.Files

namespace Place

def find? : Place → String → Option Entry
  | .absent, _ | .blocked, _ => none
  | .folder entries, name => entries.find? name

theorem temporaryName_hidden (n : Nat) : (temporaryName n).toList.head? = some '.' := by
  unfold temporaryName
  rw [String.toList_ofList]
  rfl

theorem unused_hidden (p : Place) : p.unused.toList.head? = some '.' := by
  unfold unused
  split <;> exact temporaryName_hidden _

theorem read_folder (entries : Folder) (name : String) : (folder entries).read none name =
    match entries.find? name with
    | none => .error .notFound
    | some .folder => .error .isAFolder
    | some (.file content) => .ok content := rfl

theorem remove_folder (entries : Folder) (name : String) : (folder entries).remove none name =
    match entries.find? name with
    | none => .error .notFound
    | some .folder => .error .isAFolder
    | some (.file _) => .ok (.folder (entries.erase name)) := rfl

section Calls

variable {p : Place} {name : String} (clear : p ≠ .blocked)
include clear

theorem read_found {content : String} (there : p.find? name = some (.file content)) :
    p.read none name = .ok content := by
  cases p with
  | absent => cases there
  | blocked => exact absurd rfl clear
  | folder entries =>
    rw [read_folder, show entries.find? name = _ from there]

theorem read_missing (missing : p.find? name = none) : p.read none name = .error .notFound := by
  cases p with
  | absent => rfl
  | blocked => exact absurd rfl clear
  | folder entries =>
    rw [read_folder, show entries.find? name = none from missing]

theorem create_clear : ∃ entries : Folder, p.create = .ok (.folder entries) ∧
    ∀ name, entries.find? name = p.find? name := by
  cases p with
  | absent => exact ⟨.empty, rfl, fun _ => rfl⟩
  | blocked => exact absurd rfl clear
  | folder entries => exact ⟨entries, rfl, fun _ => rfl⟩

theorem remove_found {content : String} (there : p.find? name = some (.file content)) :
    ∃ entries : Folder, p.remove none name = .ok (.folder entries) ∧
      ∀ x, entries.find? x = if x = name then none else p.find? x := by
  cases p with
  | absent => cases there
  | blocked => exact absurd rfl clear
  | folder entries =>
    refine ⟨entries.erase name, ?_, Table.find?_erase entries name⟩
    rw [remove_folder, show entries.find? name = _ from there]

theorem remove_missing (missing : p.find? name = none) :
    p.remove none name = .error .notFound := by
  cases p with
  | absent => rfl
  | blocked => exact absurd rfl clear
  | folder entries =>
    rw [remove_folder, show entries.find? name = none from missing]

end Calls

theorem write_file {entries : Folder} {name : String} (clear : entries.find? name ≠ some .folder)
    (content : String) : (Place.folder entries).write none name content =
      .ok (.folder (entries.insert name (.file content))) := by
  rcases there : entries.find? name with _ | _ | _
  · simp [write, entries?, checkName, bind, Except.bind, there]
    rfl
  · simp [write, entries?, checkName, bind, Except.bind, there]
    rfl
  · exact absurd there clear

theorem rename_file {entries : Folder} {source target content : String}
    (there : entries.find? source = some (.file content))
    (clear : entries.find? target ≠ some .folder) :
    (Place.folder entries).rename none source target =
      .ok (.folder ((entries.erase source).insert target (.file content))) := by
  have read := read_found (show folder entries ≠ .blocked from nofun) there
  rcases old : entries.find? target with _ | _ | _
  · simp [rename, read, entries?, checkName, bind, Except.bind, old]
    rfl
  · simp [rename, read, entries?, checkName, bind, Except.bind, old]
    rfl
  · exact absurd old clear

section Changes

variable {p p' : Place}

theorem create_done (done : p.create = .ok p') :
    p ≠ .blocked ∧ (∃ entries, p' = .folder entries) ∧ ∀ x, p'.find? x = p.find? x := by
  cases p with
  | absent =>
    cases done
    exact ⟨nofun, ⟨_, rfl⟩, fun _ => rfl⟩
  | blocked => cases done
  | folder entries =>
    cases done
    exact ⟨nofun, ⟨_, rfl⟩, fun _ => rfl⟩

theorem write_done {name content : String} (done : p.write none name content = .ok p') :
    p ≠ .blocked ∧ (∃ entries, p' = .folder entries) ∧
      ∀ x, p'.find? x = if x = name then some (.file content) else p.find? x := by
  cases p with
  | absent => cases done
  | blocked => cases done
  | folder entries =>
    by_cases clear : entries.find? name = some .folder
    · simp [write, entries?, checkName, bind, Except.bind, clear] at done
    · rw [write_file clear] at done
      cases done
      exact ⟨nofun, ⟨_, rfl⟩, fun x => Table.find?_insert entries name x _⟩

theorem remove_done {name : String} (done : p.remove none name = .ok p') :
    p ≠ .blocked ∧ (∃ entries, p' = .folder entries) ∧
      ∀ x, p'.find? x = if x = name then none else p.find? x := by
  cases p with
  | absent => cases done
  | blocked => cases done
  | folder entries =>
    rcases there : entries.find? name with _ | _ | _
    · rw [remove_folder, there] at done
      cases done
    · rw [remove_folder, there] at done
      cases done
      exact ⟨nofun, ⟨_, rfl⟩, Table.find?_erase entries name⟩
    · rw [remove_folder, there] at done
      cases done

theorem rename_done {source target content : String}
    (there : p.find? source = some (.file content))
    (done : p.rename none source target = .ok p') :
    p ≠ .blocked ∧ (∃ entries, p' = .folder entries) ∧ ∀ x, p'.find? x =
      if x = target then some (.file content) else if x = source then none else p.find? x := by
  cases p with
  | absent => cases there
  | blocked => cases there
  | folder entries =>
    have read := read_found (show folder entries ≠ .blocked from nofun) there
    by_cases clear : entries.find? target = some .folder
    · simp [rename, read, entries?, checkName, bind, Except.bind, clear] at done
    · rw [rename_file there clear] at done
      cases done
      refine ⟨nofun, ⟨_, rfl⟩, fun x => ?_⟩
      change Table.find? _ x = _
      rw [Table.find?_insert, Table.find?_erase]
      rfl

end Changes

section Runs

variable {call : Place → Except FileFault Place} {p p' : Place}

theorem keeping_run (done : call p = .ok p') : (keeping call).run p = (.ok (), p') := by
  simp only [keeping, StateT.run_modifyGet, done]
  rfl

theorem keeping_fault {e : FileFault} (failed : call p = .error e) :
    (keeping call).run p = (.error e, p) := by
  simp only [keeping, StateT.run_modifyGet, failed]
  rfl

theorem temporary_run (limit : Option Nat) : (access limit).temporary.run p = (p.unused, p) := rfl

theorem read_run (limit : Option Nat) (name : String) :
    ((access limit).read name).run p = (p.read limit name, p) := rfl

theorem names_run (limit : Option Nat) : (access limit).names.run p = (p.names, p) := rfl

end Runs

end Place

namespace Store.Files

section Refused

variable [Monad m] (folder : FolderAccess m)

theorem save_refused {c : Conversation} (unusable : isUsable c.id = false) :
    save folder c = return .error (.unusableId c.id) := by
  unfold save
  rw [if_neg (ne_true_of_eq_false unusable)]

variable {id : String} (unusable : isUsable id = false)
include unusable

theorem load_refused : load folder id = return .error (.unusableId id) := by
  unfold load
  rw [if_neg (ne_true_of_eq_false unusable)]

theorem delete_refused : delete folder id = return .error (.unusableId id) := by
  unfold delete
  rw [if_neg (ne_true_of_eq_false unusable)]

end Refused

variable {limit : Option Nat} {p : Place}

theorem load_run {id : String} (usable : isUsable id = true) (p : Place) :
    (load (Place.access limit) id).run p = (match p.read limit (fileName id) with
      | .ok content => some <$> read id content
      | .error .notFound => .ok none
      | .error e => .error (failure "read" (fileName id) e), p) := by
  unfold load
  rw [if_pos usable, bind_run (Place.read_run limit _)]
  cases p.read limit (fileName id) with
  | ok content => rfl
  | error e => cases e <;> rfl

theorem list_run (limit : Option Nat) (p : Place) :
    (list (Place.access limit)).run p = (match p.names with
      | .ok names => .ok (Lexicon.ofList (names.filterMap idOf?)).toList
      | .error .notFound => .ok []
      | .error e => .error (failure "list" "." e), p) := by
  unfold list
  rw [bind_run (Place.names_run limit)]
  cases p.names with
  | ok names => rfl
  | error e => cases e <;> rfl

theorem delete_done {id : String} (usable : isUsable id = true) {after : Place}
    (removed : p.remove limit (fileName id) = .ok after) :
    (delete (Place.access limit) id).run p = (.ok true, after) := by
  have remove : ((Place.access limit).remove (fileName id)).run p = _ := Place.keeping_run removed
  unfold delete
  rw [if_pos usable, bind_run remove]
  rfl

theorem delete_missing {id : String} (usable : isUsable id = true)
    (missing : p.remove limit (fileName id) = .error .notFound) :
    (delete (Place.access limit) id).run p = (.ok false, p) := by
  have remove : ((Place.access limit).remove (fileName id)).run p = _ :=
    Place.keeping_fault missing
  unfold delete
  rw [if_pos usable, bind_run remove]
  rfl

theorem save_created {c : Conversation} (usable : isUsable c.id = true) {created : Place}
    (create : p.create = .ok created) : (save (Place.access limit) c).run p =
      (put (Place.access limit) (fileName c.id) c.toJson).run created := by
  have create : (Place.access limit).create.run p = _ := Place.keeping_run create
  unfold save
  rw [if_pos usable, bind_run create]

section Put

variable {name content : String} {written after : Place}
  (wrote : p.write limit p.unused content = .ok written)
include wrote

theorem put_moved (moved : written.rename limit p.unused name = .ok after) :
    (put (Place.access limit) name content).run p = (.ok (), after) := by
  have write : ((Place.access limit).write p.unused content).run p = _ := Place.keeping_run wrote
  have rename : ((Place.access limit).rename p.unused name).run written = _ :=
    Place.keeping_run moved
  unfold put
  rw [bind_run (Place.temporary_run limit), bind_run write]
  dsimp only
  rw [bind_run rename]
  rfl

-- What was written beside the place is cleared away.
theorem put_unmoved {e : FileFault} (failed : written.rename limit p.unused name = .error e)
    (cleared : written.remove limit p.unused = .ok after) :
    (put (Place.access limit) name content).run p =
      (.error (failure "move snapshot into" name e), after) := by
  have write : ((Place.access limit).write p.unused content).run p = _ := Place.keeping_run wrote
  have rename : ((Place.access limit).rename p.unused name).run written = _ :=
    Place.keeping_fault failed
  have remove : ((Place.access limit).remove p.unused).run written = _ := Place.keeping_run cleared
  unfold put
  rw [bind_run (Place.temporary_run limit), bind_run write]
  dsimp only
  rw [bind_run rename]
  dsimp only
  rw [bind_run remove]
  rfl

end Put

end Store.Files

end Colloquy
