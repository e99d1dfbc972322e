import Colloquy.Proofs.Calls
import Colloquy.Proofs.Folders
import Colloquy.Proofs.Resumption

/-! A folder of files is as good as a table in memory. -/
namespace Colloquy

open Store.Files

structure Conversation.Fileable (c : Conversation) : Prop where
  usable : isUsable c.id = true
  storable : c.Storable

-- The files of a folder are the conversations of a table, each under its own id.
structure Filed (t : Table Conversation) (p : Place) : Prop where
  clear : p ≠ .blocked
  held : ∀ id c, t.find? id = some c → c.id = id ∧ c.Fileable
  files : ∀ name, p.find? name = ((idOf? name).bind t.find?).map fun c => .file c.toJson

abbrev Store.filed : Store (StateM Place) := .files (Place.access none)

namespace Filed

variable {t : Table Conversation} {p : Place}

theorem usable (filed : Filed t p) {id : String} {c : Conversation} (found : t.find? id = some c) :
    isUsable id = true := by
  obtain ⟨rfl, fileable⟩ := filed.held id c found
  exact fileable.usable

theorem at_fileName (filed : Filed t p) {id : String} (usable : isUsable id = true) :
    p.find? (fileName id) = (t.find? id).map fun c => .file c.toJson := by
  rw [filed.files, idOf_fileName usable]
  rfl

theorem load_run (filed : Filed t p) {id : String} (usable : isUsable id = true) :
    (Store.filed.load id).run p = (.ok (t.find? id), p) := by
  have there := filed.at_fileName usable
  refine (Store.Files.load_run usable p).trans ?_
  cases held : t.find? id with
  | none =>
    rw [held] at there
    rw [Place.read_missing filed.clear there]
  | some c =>
    rw [held] at there
    rw [Place.read_found filed.clear there]
    change (some <$> Store.Files.read id c.toJson, p) = _
    unfold Store.Files.read
    rw [Conversation.ofJson_toJson (filed.held id c held).2.storable]
    rfl

theorem put_run {entries : Folder} {name : String} (content : String)
    (free : entries.find? (Place.folder entries).unused = none)
    (clear : entries.find? name ≠ some .folder) :
    ∃ after : Folder, (Store.Files.put (Place.access none) name content).run (.folder entries) =
        (.ok (), .folder after) ∧
      ∀ x, after.find? x = if x = name then some (.file content) else entries.find? x := by
  let temporary := (Place.folder entries).unused
  let written := entries.insert temporary (.file content)
  have wrote : (Place.folder entries).write none temporary content = .ok (.folder written) :=
    Place.write_file (by rw [free]; nofun) content
  have source : written.find? temporary = some (.file content) := by
    rw [Table.find?_insert, if_pos rfl]
  have target : written.find? name ≠ some .folder := by
    rw [Table.find?_insert]
    split
    · nofun
    · exact clear
  refine ⟨_, Store.Files.put_moved wrote (Place.rename_file source target), fun x => ?_⟩
  rw [Table.find?_insert, Table.find?_erase, Table.find?_insert]
  by_cases hidden : x = temporary
  · rw [if_pos hidden, hidden, free]
  · rw [if_neg hidden, if_neg hidden]

theorem inserted (filed : Filed t p) {c : Conversation} (fileable : c.Fileable) {p' : Place}
    (clear : p' ≠ .blocked) (now : ∀ name, p'.find? name =
      if name = fileName c.id then some (.file c.toJson) else p.find? name) :
    Filed (t.insert c.id c) p' := by
  refine ⟨clear, fun id d => ?_, fun name => ?_⟩
  · rw [Table.find?_insert]
    split
    · rename_i same
      intro found
      cases Option.some.inj found
      exact ⟨same.symm, fileable⟩
    · exact filed.held id d
  · rw [now]
    split
    · rename_i own
      rw [own, idOf_fileName fileable.usable, Option.bind_some, Table.find?_insert, if_pos rfl]
      rfl
    · rename_i other
      rw [filed.files, Option.bind_congr fun id listed => ?_]
      rw [Table.find?_insert, if_neg]
      rintro rfl
      exact other (idOf_some listed).symm

theorem save_run (filed : Filed t p) {c : Conversation} (fileable : c.Fileable) :
    ∃ p', (Store.filed.save c).run p = (.ok (), p') ∧ Filed (t.insert c.id c) p' := by
  obtain ⟨entries, created, same⟩ := Place.create_clear filed.clear
  have free : entries.find? (Place.folder entries).unused = none := by
    rw [same, filed.files, idOf_hidden (Place.unused_hidden _)]
    rfl
  have clear : entries.find? (fileName c.id) ≠ some .folder := by
    rw [same, filed.at_fileName fileable.usable]
    cases t.find? c.id <;> nofun
  obtain ⟨after, run, now⟩ := put_run c.toJson free clear
  refine ⟨.folder after, (Store.Files.save_created fileable.usable created).trans run,
    filed.inserted fileable nofun fun name => ?_⟩
  rw [← same]
  exact now name

theorem erased (filed : Filed t p) {id : String} (usable : isUsable id = true) {p' : Place}
    (clear : p' ≠ .blocked)
    (now : ∀ name, p'.find? name = if name = fileName id then none else p.find? name) :
    Filed (t.erase id) p' := by
  refine ⟨clear, fun id' d found => ?_, fun name => ?_⟩
  · rw [Table.find?_erase] at found
    split at found
    · cases found
    · exact filed.held id' d found
  · rw [now]
    split
    · rename_i own
      rw [own, idOf_fileName usable, Option.bind_some, Table.find?_erase, if_pos rfl]
      rfl
    · rename_i other
      rw [filed.files, Option.bind_congr fun id' listed => ?_]
      rw [Table.find?_erase, if_neg]
      rintro rfl
      exact other (idOf_some listed).symm

theorem delete_run (filed : Filed t p) {id : String} (usable : isUsable id = true) :
    ∃ p', (Store.filed.delete id).run p = (.ok (t.contains id), p') ∧ Filed (t.erase id) p' := by
  have there := filed.at_fileName usable
  unfold Table.contains
  cases held : t.find? id with
  | none =>
    rw [held] at there
    have missing := Place.remove_missing filed.clear there
    refine ⟨p, Store.Files.delete_missing usable missing,
      filed.erased usable filed.clear fun name => ?_⟩
    split
    · rename_i own
      rw [own, there]
      rfl
    · rfl
  | some c =>
    rw [held] at there
    obtain ⟨entries, removed, now⟩ := Place.remove_found filed.clear there
    exact ⟨.folder entries, Store.Files.delete_done usable removed, filed.erased usable nofun now⟩

theorem mem_keys_iff (filed : Filed t p) (id : String) :
    id ∈ t.keys ↔ ∃ name, idOf? name = some id ∧ (p.find? name).isSome = true := by
  rw [Table.mem_keys, Table.contains_iff]
  constructor
  · rintro ⟨c, found⟩
    refine ⟨fileName id, idOf_fileName (filed.usable found), ?_⟩
    rw [filed.at_fileName (filed.usable found), found]
    rfl
  · rintro ⟨name, listed, there⟩
    rw [filed.files, listed, Option.isSome_map] at there
    exact Option.isSome_iff_exists.mp there

theorem list_run (filed : Filed t p) : Store.filed.list.run p = (.ok t.keys, p) := by
  refine (Store.Files.list_run none p).trans ?_
  cases p with
  | absent =>
    have none : t.keys = [] := by
      refine List.eq_nil_iff_forall_not_mem.mpr fun id listed => ?_
      obtain ⟨_, _, there⟩ := (filed.mem_keys_iff id).mp listed
      cases there
    rw [none]
    rfl
  | blocked => exact absurd rfl filed.clear
  | folder entries =>
    have same : (Lexicon.ofList (entries.keys.filterMap idOf?)).toList = t.keys := by
      refine Table.keys_congr fun id => ?_
      change id ∈ Lexicon.toList _ ↔ _
      rw [filed.mem_keys_iff, Lexicon.mem_toList, Lexicon.mem_ofList, List.mem_filterMap]
      exact exists_congr fun name => by rw [Table.mem_keys, and_comm]; rfl
    rw [← same]
    rfl

theorem new {p : Place} (new : p = .absent ∨ p = .folder .empty) : Filed .empty p := by
  refine ⟨?_, nofun, fun name => ?_⟩
  · rcases new with rfl | rfl <;> nofun
  · have nothing : (idOf? name).bind (Table.empty : Table Conversation).find? = none := by
      cases idOf? name <;> rfl
    rw [nothing]
    rcases new with rfl | rfl <;> rfl

end Filed

def StoreCall.usable (call : StoreCall) : Bool := call.id?.all isUsable

inductive Answered.Refused : Answered → Prop where
  | saved (c : Conversation) : Refused ⟨.save c, .error (.unusableId c.id)⟩
  | loaded (id : String) : Refused ⟨.load id, .error (.unusableId id)⟩
  | deleted (id : String) : Refused ⟨.delete id, .error (.unusableId id)⟩

namespace Store

variable {t : Table Conversation} {p : Place}

theorem filed_refused (p : Place) {call : StoreCall} (unusable : call.usable = false) :
    Answered.Refused ⟨call, ((filed.perform call).run p).1⟩ ∧
      ((filed.perform call).run p).2 = p := by
  cases call with
  | save c =>
    have refused : filed.perform (.save c) = _ := Files.save_refused _ unusable
    rw [refused]
    exact ⟨.saved c, rfl⟩
  | load id =>
    have refused : filed.perform (.load id) = _ := Files.load_refused _ unusable
    rw [refused]
    exact ⟨.loaded id, rfl⟩
  | delete id =>
    have refused : filed.perform (.delete id) = _ := Files.delete_refused _ unusable
    rw [refused]
    exact ⟨.deleted id, rfl⟩
  | list => cases unusable

theorem filed_as_tabled (before : Filed t p) {call : StoreCall} (usable : call.usable = true)
    (storable : ∀ c, call = .save c → c.Storable) :
    ((filed.perform call).run p).1 = ((tabled.perform call).run t).1 ∧
      Filed ((tabled.perform call).run t).2 ((filed.perform call).run p).2 := by
  cases call with
  | save c =>
    obtain ⟨p', run, after⟩ := before.save_run ⟨usable, storable c rfl⟩
    change ((filed.save c).run p).1 = .ok () ∧ Filed (t.insert c.id c) ((filed.save c).run p).2
    rw [run]
    exact ⟨rfl, after⟩
  | load id =>
    change ((filed.load id).run p).1 = .ok (t.find? id) ∧ Filed t ((filed.load id).run p).2
    rw [before.load_run usable]
    exact ⟨rfl, before⟩
  | delete id =>
    obtain ⟨p', run, after⟩ := before.delete_run usable
    change ((filed.delete id).run p).1 = .ok (t.contains id) ∧
      Filed (t.erase id) ((filed.delete id).run p).2
    rw [run]
    exact ⟨rfl, after⟩
  | list =>
    change (filed.list.run p).1 = .ok t.keys ∧ Filed t (filed.list.run p).2
    rw [before.list_run]
    exact ⟨rfl, before⟩

-- Calls one after the other keep the folder and the table together.
theorem filed_all (calls : List StoreCall) (before : Filed t p)
    (storable : ∀ c, .save c ∈ calls → isUsable c.id = true → c.Storable) :
    (((filed.performAll calls).run p).1.map (·.call) = calls ∧
      (∀ a ∈ ((filed.performAll calls).run p).1, a.call.usable = false → a.Refused) ∧
      ((filed.performAll calls).run p).1.filter (·.call.usable) =
        ((tabled.performAll (calls.filter (·.usable))).run t).1) ∧
    Filed ((tabled.performAll (calls.filter (·.usable))).run t).2
      ((filed.performAll calls).run p).2 := by
  induction calls generalizing t p with
  | nil => exact ⟨⟨rfl, List.forall_mem_nil _, rfl⟩, before⟩
  | cons call rest ih =>
    let served (a : Answered) := a.call.usable
    have later (c : Conversation) (member : .save c ∈ rest) :=
      storable c (List.mem_cons_of_mem _ member)
    rw [performAll_cons]
    cases usable : call.usable with
    | false =>
      obtain ⟨refused, unchanged⟩ := filed_refused p usable
      obtain ⟨⟨all, errors, same⟩, after⟩ := ih before later
      rw [unchanged, List.filter_cons_of_neg (ne_true_of_eq_false usable)]
      refine ⟨⟨congrArg (call :: ·) all, ?_, ?_⟩, after⟩
      · exact List.forall_mem_cons.mpr ⟨fun _ => refused, errors⟩
      · exact (List.filter_cons_of_neg (p := served) (ne_true_of_eq_false usable)).trans same
    | true =>
      obtain ⟨answer, next⟩ := filed_as_tabled before usable
        fun c own => storable c (own ▸ List.mem_cons_self) (by rw [own] at usable; exact usable)
      obtain ⟨⟨all, errors, same⟩, after⟩ := ih next later
      rw [List.filter_cons_of_pos usable, performAll_cons]
      refine ⟨⟨congrArg (call :: ·) all, ?_, ?_⟩, after⟩
      · refine List.forall_mem_cons.mpr ⟨fun unusable => ?_, errors⟩
        exact absurd (usable.symm.trans unusable) nofun
      · rw [answer]
        exact (List.filter_cons_of_pos (p := served) usable).trans (congrArg (_ :: ·) same)

-- A store of files answers as a table does, save for the calls that no file can be named for: these
-- are refused, and no other call notices them.
theorem files_as_table (calls : List StoreCall) (p : Place)
    (new : p = .absent ∨ p = .folder .empty)
    (storable : ∀ c, .save c ∈ calls → isUsable c.id = true → c.Storable) :
    let answers := ((filed.performAll calls).run p).1
    let after := ((filed.performAll calls).run p).2
    let served := calls.filter (·.usable)
    answers.map (·.call) = calls ∧
    (∀ a ∈ answers, a.call.usable = false → a.Refused) ∧
    answers.filter (·.call.usable) = ((tabled.performAll served).run .empty).1 ∧
    (∀ k (a : Answered), (answers.filter (·.call.usable))[k]? = some a →
      a.Right (served.take k)) ∧
    ∀ name entry, after.find? name = some entry → ∃ c : Conversation, name = fileName c.id ∧
      lastSaved served c.id = some c ∧ entry = .file c.toJson ∧
      Conversation.ofJson c.toJson = .ok c := by
  intro answers after served
  obtain ⟨⟨all, refused, same⟩, left⟩ := filed_all calls (.new new) storable
  refine ⟨all, refused, same, fun k a there => ?_, fun name entry there => ?_⟩
  · rw [same] at there
    have fresh (id : String) : (Table.empty : Table Conversation).find? id = lastSaved [] id := rfl
    exact tabled_all_right served fresh k a there
  · rw [left.files] at there
    obtain ⟨c, found, rfl⟩ := Option.map_eq_some_iff.mp there
    obtain ⟨id, listed, stored⟩ := Option.bind_eq_some_iff.mp found
    obtain ⟨rfl, fileable⟩ := left.held id c stored
    refine ⟨c, (idOf_some listed).symm, ?_, rfl, Conversation.ofJson_toJson fileable.storable⟩
    rw [tabled_all_leaves] at stored
    exact stored

-- A visitor whose id looks like a file name beside one whose id leads out of the folder.
def namesake : Conversation := { shopper with id := "visitor.json" }

def errands : List StoreCall := [.save shopper, .save { shopper with id := "../visitor" },
  .save namesake, .load "visitor", .load "../visitor", .list, .delete "visitor",
  .delete "visitor", .load "visitor.json"]

theorem errands_filed :
    (∀ c, .save c ∈ errands → isUsable c.id = true → c.Storable) ∧
    ((filed.performAll errands).run .absent).1.filter (·.call.usable) =
      [⟨.save shopper, .ok ()⟩, ⟨.save namesake, .ok ()⟩, ⟨.load "visitor", .ok shopper⟩,
        ⟨.list, .ok ["visitor", "visitor.json"]⟩, ⟨.delete "visitor", .ok true⟩,
        ⟨.delete "visitor", .ok false⟩, ⟨.load "visitor.json", .ok namesake⟩] := by
  have storable (c : Conversation) (member : .save c ∈ errands) (usable : isUsable c.id = true) :
      c.Storable := by
    unfold errands at member
    simp only [List.mem_cons, StoreCall.save.injEq, reduceCtorEq, or_false,
      List.not_mem_nil] at member
    have known := shopper_lasting.storable
    rcases member with rfl | rfl | rfl
    · exact known
    · exact absurd usable (by decide)
    · exact ⟨⟨known.fits.1, known.fits.2, known.fits.3, known.fits.4, known.fits.5, known.fits.6,
        known.fits.7⟩, known.data, known.updates⟩
  exact ⟨storable, (files_as_table errands .absent (.inl rfl) storable).2.2.1.trans (by rfl)⟩

end Store

end Colloquy
