/-
Texts that were saved.  A text that could be saved is read again, with its lines ended
alike; of texts saved in turn it is the last.
-/
import Kanban.FileTree

namespace Kanban

namespace FileTree

variable {tree other : FileTree} {path : Path} {place : Place}

/-- A path leads to the same place among other files in the same directories. -/
theorem follow_of_directories (hdirectories : other.directories = tree.directories)
    {start : Place} {segments : Path} (hfollow : tree.follow path start segments = .ok place) :
    other.follow path start segments = .ok place := by
  induction segments generalizing start with
  | nil => exact hfollow
  | cons segment rest ih =>
      have hsame : other.isDirectory start = tree.isDirectory start := by
        rw [isDirectory, isDirectory, hdirectories]
      rw [follow] at hfollow ⊢
      rw [hsame]
      split at hfollow
      · cases hfollow
      · split at hfollow
        · cases hfollow
        · rw [if_neg ‹_›, if_neg ‹_›]
          exact ih hfollow

theorem place?_of_directories (hdirectories : other.directories = tree.directories)
    (hplace : tree.place? path = .ok place) : other.place? path = .ok place := by
  unfold place? at hplace ⊢
  split at hplace
  · cases hplace
  · split at hplace
    · cases hplace
    · rw [if_neg ‹_›, if_neg ‹_›]
      split at hplace
      · exact follow_of_directories hdirectories hplace
      · exact follow_of_directories hdirectories hplace

/-- A text that could be written is read again, with its lines ended alike. -/
theorem read_of_write {text : String} (hwrite : tree.write path text = .ok other) :
    other.read path = .ok (String.ofList (unifyLines text.toList)) := by
  rw [write] at hwrite
  cases hplace : tree.place? path with
  | error cause =>
      rw [hplace] at hwrite
      cases hwrite
  | ok place =>
      rw [hplace] at hwrite
      dsimp only [bind, Except.bind] at hwrite
      split at hwrite
      · cases hwrite
      · have hother := Except.ok.inj hwrite
        have hfile : other.file? place = some text := by
          rw [← hother, file?, List.lookup_cons_self]
        have hsame : other.place? path = .ok place :=
          place?_of_directories (by rw [← hother]) hplace
        rw [read, hsame]
        dsimp only [bind, Except.bind]
        rw [hfile]

theorem read_of_save {text : String} (hsave : (tree.save path text).2 = none) :
    (tree.save path text).1.read path = .ok (String.ofList (unifyLines text.toList)) := by
  rw [save] at hsave ⊢
  rcases hmade : tree.makeDirectory path.parent with ⟨made, _ | cause⟩
  · rw [hmade] at hsave
    dsimp only at hsave ⊢
    cases hwrite : made.write path text with
    | error cause =>
        rw [hwrite] at hsave
        cases hsave
    | ok written => exact read_of_write hwrite
  · rw [hmade] at hsave
    cases hsave

/-- Save texts in one file, one after the other. -/
def saveAll (tree : FileTree) (path : Path) (texts : List String) : FileTree :=
  texts.foldl (fun files text => (files.save path text).1) tree

theorem read_saveAll {texts : List String} {text : String}
    (hsave : ((tree.saveAll path texts).save path text).2 = none) :
    (tree.saveAll path (texts ++ [text])).read path =
      .ok (String.ofList (unifyLines text.toList)) := by
  rw [saveAll, List.foldl_append]
  exact read_of_save hsave

end FileTree

end Kanban
