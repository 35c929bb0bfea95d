import ClusterHarness.Proofs.Results
import ClusterHarness.Security.TrustMaterial

/-!
Looking for the keystore. It is found if its three files are there, and a path that the file system takes
for too long ends the search.
-/

namespace ClusterHarness

namespace FileTree

variable (tree : FileTree) (p : Path)

/-- A file, and no directory, stands at the path. -/
def Holds : Prop := ∃ content, tree.readBytes p = .ok content

/-- The path or one of its names is longer than any path or name there is. -/
def Overlong : Prop := tree.find p = .error (.system .nameTooLong p)

theorem path_of_find {problem : FileProblem} {q : Path} (h : tree.find p = .error (.system problem q)) :
    q = p := by
  unfold find at h
  split at h
  · cases h
  · rw [mapError_eq_error] at h
    obtain ⟨_, -, hpath⟩ := h
    cases hpath
    rfl

theorem not_overlong_of_holds {tree : FileTree} {p : Path} (h : tree.Holds p) : ¬tree.Overlong p := by
  obtain ⟨content, hread⟩ := h
  intro hlong
  rw [readBytes, hlong] at hread
  cases hread

theorem isFile_cases :
    (¬tree.Overlong p ∧ ∃ there, tree.isFile p = .ok there ∧ (there = true ↔ tree.Holds p)) ∨
      tree.Overlong p ∧ tree.isFile p = .error (.system .nameTooLong p) := by
  unfold Overlong Holds isFile readBytes
  rcases hfound : tree.find p with (⟨problem, q⟩ | fault) | (_ | content)
  · have hq := tree.path_of_find p hfound
    subst hq
    cases problem <;> simp
  · simp
  · simp
  · simp

end FileTree

namespace TrustMaterial

def fileAt (resources : Path) (name : Text) : Path := (resources.child directory).child name

variable (files : FileTree) (resources : Path)

def keystoreAt : Keystore where
  caCert := files.absolute (fileAt resources caFile)
  clientCert := files.absolute (fileAt resources certificateFile)
  clientKey := files.absolute (fileAt resources keyFile)
  verifyHostname := false

def Present : Prop := ∀ name ∈ fileNames, files.Holds (fileAt resources name)

/-- The file system can tell of each file whether it is there. -/
def Searchable : Prop := ∀ name ∈ fileNames, ¬files.Overlong (fileAt resources name)

theorem Present.searchable {files : FileTree} {resources : Path} (h : Present files resources) :
    Searchable files resources := fun name hname => FileTree.not_overlong_of_holds (h name hname)

/-- The search goes through the names up to the first that the file system cannot tell of. -/
theorem missing_cases (dir : Path) (names : List Text) :
    (∃ absent, missing files dir names = .ok absent ∧ (∀ name ∈ names, ¬files.Overlong (dir.child name)) ∧
      (absent = [] ↔ ∀ name ∈ names, files.Holds (dir.child name))) ∨
    ∃ name ∈ names, files.Overlong (dir.child name) ∧
      missing files dir names = .error (.system .nameTooLong (dir.child name)) := by
  induction names with
  | nil => exact .inl ⟨[], rfl, nofun, iff_of_true rfl nofun⟩
  | cons name names ih =>
    rcases files.isFile_cases (dir.child name) with ⟨hfound, there, hthere, hholds⟩ | ⟨hlong, herror⟩
    · rcases ih with ⟨absent, hmissing, hfine, habsent⟩ | ⟨other, hother, hlong, hmissing⟩
      · refine .inl ⟨if there then absent else name :: absent, ?_, List.forall_mem_cons.mpr ⟨hfound, hfine⟩, ?_⟩
        · rw [missing, hthere, hmissing]
          rfl
        · rw [List.forall_mem_cons, ← hholds, ← habsent]
          cases there <;> simp
      · refine .inr ⟨other, List.mem_cons_of_mem _ hother, hlong, ?_⟩
        rw [missing, hthere, hmissing]
        rfl
    · refine .inr ⟨name, List.mem_cons_self, hlong, ?_⟩
      rw [missing, herror]
      rfl

theorem keystore?_cases :
    (Present files resources ∧ keystore? files resources = .ok (some (keystoreAt files resources))) ∨
      (¬Present files resources ∧ Searchable files resources ∧ keystore? files resources = .ok none) ∨
      (¬Searchable files resources ∧ ∃ name ∈ fileNames,
        keystore? files resources = .error (.system .nameTooLong (fileAt resources name))) := by
  rcases missing_cases files (resources.child directory) fileNames with
    ⟨_ | ⟨name, names⟩, hmissing, hfine, habsent⟩ | ⟨name, hname, hlong, hmissing⟩
  · refine .inl ⟨habsent.mp rfl, ?_⟩
    simp only [keystore?, findKeystore, hmissing]
    rfl
  · refine .inr (.inl ⟨fun hpresent => (nomatch habsent.mpr hpresent), hfine, ?_⟩)
    simp only [keystore?, findKeystore, hmissing]
  · refine .inr (.inr ⟨fun hfine => hfine name hname hlong, name, hname, ?_⟩)
    simp only [keystore?, findKeystore, hmissing]
    rfl

end TrustMaterial

end ClusterHarness
