import WifiTrust.Proofs.Action
import WifiTrust.Proofs.Files.Tree
import WifiTrust.Proofs.Json.Store
import WifiTrust.Saved

namespace WifiTrust.MemoryStore

open Script (World)

theorem ofText?_write {s : MemoryStore} (h : s.Timely) (clock : Timestamp) (style : Json.Style) :
    ofText? clock (s.toJson.write style) = some { s.reloaded with clock := clock } := by
  unfold ofText?
  rw [h.plain.parse_write, Option.bind_some, ofJson?_toJson h]

/-- A file holds the networks of a store. -/
def SavedAt (s : MemoryStore) (p : Path) (w : World) : Prop :=
  w.files.read p = .ok (Utf8.encode s.toJson.pretty.toList)

theorem savedAt_of_save {s : MemoryStore} {p : Path} {w w' : World}
    (h : (s.save p).perform w = (.ok (), w')) : s.SavedAt p w' := by
  obtain ⟨_, w₁, -, hwrite⟩ := Action.perform_bind_eq_ok h
  exact FileTree.read_of_write (Action.perform_write_eq_ok hwrite)

theorem output_save {s : MemoryStore} {p : Path} {w w' : World}
    (h : (s.save p).perform w = (.ok (), w')) : w'.output = w.output := by
  obtain ⟨_, w₁, hroom, hwrite⟩ := Action.perform_bind_eq_ok h
  exact (Action.output_write hwrite).trans (Action.output_makeRoomFor hroom)

theorem load_of_savedAt {s : MemoryStore} (timely : s.Timely) {p : Path} {w : World}
    (h : s.SavedAt p w) (clock : Timestamp) :
    (load clock p).perform w = (.ok { s.reloaded with clock := clock }, w) := by
  have hexists : (Action.pathExists p).perform w = (.ok true, w) := by
    rw [Action.perform_pathExists, FileTree.pathExists_of_read h]
  have hread : (Action.readText p (.file p)).perform w = (.ok s.toJson.pretty, w) :=
    Action.perform_readText h (.file p)
  have hstore : ofText? clock s.toJson.pretty = some { s.reloaded with clock := clock } :=
    ofText?_write timely clock .pretty
  unfold load
  rw [Action.perform_bind_of_ok hexists, if_pos rfl, Action.perform_bind_of_ok hread, hstore]
  rfl

/-- What is loaded after a store was saved is that store, whatever else happened to the world in the
meantime. -/
theorem load_of_save {s s' : MemoryStore} (timely : s.Timely) {p : Path} {clock : Timestamp}
    {w w₁ w₂ w₃ : World} (saved : (s.save p).perform w = (.ok (), w₁))
    (untouched : w₂.files.read p = w₁.files.read p)
    (loaded : (load clock p).perform w₂ = (.ok s', w₃)) :
    s' = { s.reloaded with clock := clock } := by
  have hfile : s.SavedAt p w₂ := untouched.trans (savedAt_of_save saved)
  rw [load_of_savedAt timely hfile clock] at loaded
  cases loaded
  rfl

end WifiTrust.MemoryStore
