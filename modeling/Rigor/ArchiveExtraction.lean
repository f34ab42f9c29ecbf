import Mathlib.Algebra.Order.BigOperators.Group.List
import Rigor.FileTree
import Rigor.Uploads

/-!
# Extraction of archives

`inspect_archive` and `extract_archive`, in a tree of files with links anywhere. No
archive changes what is outside of the directory that it is extracted to, wherever
the extraction stops (`extraction_confined`), and one that is extracted leaves there
its last file of each path, within the limits of the inspection
(`extracted_contents`).
-/

namespace Rigor.ArchiveExtraction

open Py Uploads
open FileTree (FilePath PathStep Process OsError Slot Vacant Grows NoLinks Compatible)

/-- The files of the machine. -/
abbrev Files := FileTree.Tree Str Nat

inductive ExtractionError where
  /-- `ArchiveSafetyError` -/
  | safety (message : Str)
  | zip (e : ZipError)
  | os (e : OsError)
  deriving DecidableEq

/-- What reading a member yields, and how it ends. -/
structure MemberStream where
  bytes : ByteText
  ending : Except ZipError Unit

/-- `zipfile`, which yields no more bytes of a member than its entry says,
`str.casefold` and the digest of a file. -/
structure ArchiveRuntime where
  infolist : ByteText → Except ZipError (List ZipEntry)
  openMember : ByteText → ZipEntry → Except ZipError MemberStream
  casefold : Str → Str
  sha256 : ByteText → Str
  bounded : ∀ content entry stream, openMember content entry = .ok stream →
    stream.bytes.length ≤ entry.fileSize

structure ArchiveInventory where
  archiveName : Str
  archiveSha256 : Str
  compressedBytes : Nat
  uncompressedBytes : Nat
  fileCount : Nat
  suffixCounts : List (Str × Nat)
  duplicateOf : Option Str
  deriving DecidableEq

def maxArchiveEntries : Nat := 25000

def maxArchiveUncompressedBytes : Nat := 2 * 1024 * 1024 * 1024

def maxArchiveRatio : Nat := 200

/-! ## Paths -/

def stepText : PathStep Str → Str
  | .up => ".."
  | .down name => name

def stepOf (part : Str) : PathStep Str := if part = ".." then .up else .down part

/-- `Path.name`. -/
def fileName (path : FilePath Str) : Str := (path.steps.getLast?.map stepText).getD []

/-- `str(path)`. -/
def pathText (path : FilePath Str) : Str :=
  let text := joinPath (path.steps.map stepText)
  if path.absolute then 47 :: text else if path.steps = [] then [46] else text

/-- `destination.joinpath(*PurePosixPath(filename).parts)`; the parts of an absolute
path begin with the root. -/
def memberPath (destination : FilePath Str) (filename : Str) : FilePath Str :=
  let steps := (pathParts filename).map stepOf
  if filename.head? = some 47 then ⟨true, steps⟩
  else ⟨destination.absolute, destination.steps ++ steps⟩

/-! ## Inspection -/

/-- `counts[key] += 1`. -/
def increment (key : Str) (counts : List (Str × Nat)) : List (Str × Nat) :=
  if key ∈ counts.map Prod.fst then
    counts.map fun c => if c.1 = key then (key, c.2 + 1) else c
  else counts ++ [(key, 1)]

/-- `Counter.most_common`. -/
def mostCommon (counts : List (Str × Nat)) : List (Str × Nat) :=
  counts.insertionSort fun c d => d.2 ≤ c.2

def suffixKey (casefold : Str → Str) (filename : Str) : Str :=
  let suffix := casefold (pathSuffix filename)
  if suffix = [] then "<none>" else suffix

/-- What the loop makes of a member, behind members of so many bytes. -/
def checkMember (casefold : Str → Str) (archiveName : Str) (state : Nat × List (Str × Nat))
    (member : ZipEntry) : Except ExtractionError (Nat × List (Str × Nat)) :=
  let total := state.1 + member.fileSize
  if member.filename.head? = some 47 ∨ ("..": Str) ∈ pathParts member.filename
      ∨ 92 ∈ member.filename then
    .error (.safety (("Unsafe archive path: " : Str) ++ member.filename))
  else if member.externalAttr / 65536 / 4096 % 16 = 10 then
    .error (.safety (("Archive contains a symbolic link: " : Str) ++ member.filename))
  else if maxArchiveUncompressedBytes < total then
    .error (.safety (("Archive expands beyond the allowed limit: " : Str) ++ archiveName))
  else if member.compressSize ≠ 0 ∧ maxArchiveRatio * member.compressSize < member.fileSize then
    .error (.safety (("Suspicious compression ratio: " : Str) ++ member.filename))
  else .ok (total, if isDirectory member then state.2
    else increment (suffixKey casefold member.filename) state.2)

variable (runtime : ArchiveRuntime) (os : Process Str)

/-- `inspect_archive`. -/
def inspectArchive (t : Files) (path : FilePath Str) (duplicateOf : Option Str) :
    Except ExtractionError ArchiveInventory :=
  let name := fileName path
  match os.readFile t path with
  | .error _ => .error (.safety (("Archive does not exist: " : Str) ++ pathText path))
  | .ok content =>
      match runtime.infolist content with
      | .error .badZip => .error (.safety (("Malformed ZIP archive: " : Str) ++ name))
      | .error .other => .error (.zip .other)
      | .ok entries =>
          if maxArchiveEntries < entries.length then
            .error (.safety (("Archive contains too many entries: " : Str) ++ name))
          else do
            let (total, suffixes) ← entries.foldlM (checkMember runtime.casefold name) (0, [])
            .ok ⟨name, runtime.sha256 content, content.length, total,
              (suffixes.map Prod.snd).sum, mostCommon suffixes, duplicateOf⟩

/-! ## Extraction -/

/-- The destination is replaced by an empty directory. -/
def emptyDestination (t : Files) (destination : FilePath Str) : Except OsError Unit × Files :=
  if os.exists t destination then
    match os.removeTree t destination with
    | (.error e, t') => (.error e, t')
    | (.ok (), t') => os.makeDirs destination.absolute false t' destination.steps.reverse
  else os.makeDirs destination.absolute false t destination.steps.reverse

/-- The copy of a member; where its reading fails, the file is left as it is by then. -/
def extractMember (content : ByteText) (destination : FilePath Str) (member : ZipEntry)
    (t : Files) : Except ExtractionError Unit × Files :=
  let target := memberPath destination member.filename
  match os.makeDirs target.absolute true t target.steps.dropLast.reverse with
  | (.error e, t') => (.error (.os e), t')
  | (.ok (), t') =>
      match runtime.openMember content member with
      | .error e => (.error (.zip e), t')
      | .ok stream =>
          match os.writeFile t' target stream.bytes with
          | .error e => (.error (.os e), t')
          | .ok t'' => (stream.ending.mapError .zip, t'')

def extractMembers (content : ByteText) (destination : FilePath Str) :
    List ZipEntry → Files → Except ExtractionError Unit × Files
  | [], t => (.ok (), t)
  | member :: members, t =>
      if isDirectory member then extractMembers content destination members t
      else
        match extractMember runtime os content destination member t with
        | (.error e, t') => (.error e, t')
        | (.ok (), t') => extractMembers content destination members t'

/-- `extract_archive`. The archive is read once more behind the destination's
removal. -/
def extractArchive (t : Files) (path destination : FilePath Str) :
    Except ExtractionError ArchiveInventory × Files :=
  match inspectArchive runtime os t path none with
  | .error e => (.error e, t)
  | .ok inventory =>
      match emptyDestination os t destination with
      | (.error e, t') => (.error (.os e), t')
      | (.ok (), t') =>
          match os.readFile t' path with
          | .error e => (.error (.os e), t')
          | .ok content =>
              match runtime.infolist content with
              | .error e => (.error (.zip e), t')
              | .ok members =>
                  match extractMembers runtime os content destination members t' with
                  | (.error e, t'') => (.error e, t'')
                  | (.ok (), t'') => (.ok inventory, t'')

/-! ## What is inspected -/

variable {runtime} {os}

/-- A member that keeps to the directory that it is extracted to. -/
structure Contained (member : ZipEntry) : Prop where
  relative : member.filename.head? ≠ some 47
  below : ("..": Str) ∉ pathParts member.filename

theorem checkMember_ok {casefold : Str → Str} {name : Str} {state state' : Nat × List (Str × Nat)}
    {member : ZipEntry} (h : checkMember casefold name state member = .ok state') :
    Contained member ∧ state'.1 = state.1 + member.fileSize
      ∧ state'.1 ≤ maxArchiveUncompressedBytes := by
  unfold checkMember at h
  dsimp only at h
  split_ifs at h with hpath hlink htotal hratio
  · have hstate := Except.ok.inj h
    rw [not_or, not_or] at hpath
    rw [← hstate]
    exact ⟨⟨hpath.1, hpath.2.1⟩, rfl, Nat.le_of_not_lt htotal⟩
  · have hstate := Except.ok.inj h
    rw [not_or, not_or] at hpath
    rw [← hstate]
    exact ⟨⟨hpath.1, hpath.2.1⟩, rfl, Nat.le_of_not_lt htotal⟩

theorem checkMembers_ok {casefold : Str → Str} {name : Str} {members : List ZipEntry} :
    ∀ {state state' : Nat × List (Str × Nat)},
      members.foldlM (checkMember casefold name) state = .ok state' →
      state.1 ≤ maxArchiveUncompressedBytes →
      (∀ member ∈ members, Contained member)
        ∧ state'.1 = state.1 + (members.map ZipEntry.fileSize).sum
        ∧ state'.1 ≤ maxArchiveUncompressedBytes := by
  induction members with
  | nil =>
      intro state state' h hstate
      cases h
      exact ⟨fun _ hmem => (by cases hmem), rfl, hstate⟩
  | cons member members ih =>
      intro state state' h hstate
      rw [List.foldlM_cons] at h
      obtain ⟨next, hcheck, hrest⟩ := bind_eq_ok h
      obtain ⟨hcontained, htotal, hle⟩ := checkMember_ok hcheck
      obtain ⟨hall, hsum, hbound⟩ := ih hrest hle
      refine ⟨fun m hm => ?_, ?_, hbound⟩
      · rcases List.mem_cons.mp hm with rfl | hm
        · exact hcontained
        · exact hall m hm
      · rw [hsum, htotal, List.map_cons, List.sum_cons, Nat.add_assoc]

/-- What an archive that passes is. -/
theorem inspectArchive_ok {t : Files} {path : FilePath Str} {duplicateOf : Option Str}
    {inventory : ArchiveInventory}
    (h : inspectArchive runtime os t path duplicateOf = .ok inventory) :
    ∃ content members, os.readFile t path = .ok content ∧ runtime.infolist content = .ok members
      ∧ members.length ≤ maxArchiveEntries ∧ (∀ member ∈ members, Contained member)
      ∧ inventory.uncompressedBytes = (members.map ZipEntry.fileSize).sum
      ∧ inventory.uncompressedBytes ≤ maxArchiveUncompressedBytes := by
  unfold inspectArchive at h
  dsimp only at h
  cases hread : os.readFile t path with
  | error e =>
      rw [hread] at h
      cases h
  | ok content =>
      rw [hread] at h
      dsimp only at h
      cases hlist : runtime.infolist content with
      | error e =>
          rw [hlist] at h
          cases e <;> cases h
      | ok members =>
          rw [hlist] at h
          dsimp only at h
          split_ifs at h with hlength
          obtain ⟨state, hchecked, hinventory⟩ := bind_eq_ok h
          obtain ⟨hall, hsum, hbound⟩ := checkMembers_ok hchecked (Nat.zero_le _)
          obtain rfl := Except.ok.inj hinventory
          rw [Nat.zero_add] at hsum
          exact ⟨content, members, rfl, hlist, Nat.le_of_not_lt hlength, hall, hsum, hbound⟩

/-! ## What is extracted -/

/-- The directory of an extraction: nothing outside of it has changed but that
directories are made. -/
structure Extracting (os : Process Str) (destination : FilePath Str) (t t' : Files)
    (top : List Str) : Prop where
  found : ∃ left, os.lookup t' destination = .ok (.at top left)
  dir : t'.node top = some .dir
  noLinks : NoLinks t' top
  outside : ∀ place, ¬top <+: place → t'.node place = t.node place
    ∨ t.node place = none ∧ t'.node place = some .dir

variable {destination : FilePath Str} {t t₁ t₂ : Files} {top : List Str}

theorem extracting_of_vacant (h : Vacant os destination t t₁ top) :
    Extracting os destination t t₁ top where
  found := h.found
  dir := h.dir
  noLinks below target hlink := by
    by_cases hbelow : below = []
    · rw [hbelow, List.append_nil, h.dir] at hlink
      cases hlink
    · cases (h.empty below hbelow).symm.trans hlink
  outside := h.outside

theorem Extracting.grows {new : List Str → Prop} (h : Extracting os destination t t₁ top)
    (hgrows : Grows new t₁ t₂) : Extracting os destination t t₂ top where
  found := h.found.imp fun _ hfound => FileTree.walk_mono hgrows.keep hfound
  dir := hgrows.keep _ _ h.dir
  noLinks := hgrows.noLinks h.noLinks
  outside place hplace := by
    rcases hgrows place with heq | ⟨-, hnone, hdir⟩
    · rw [heq]
      exact h.outside place hplace
    · rcases h.outside place hplace with heq | ⟨hnone', hdir'⟩
      · exact .inr ⟨heq ▸ hnone, hdir⟩
      · exact .inr ⟨hnone', hdir⟩

theorem Extracting.written {names : List Str} {content : ByteText}
    (h : Extracting os destination t t₁ top) (hleaf : t₁.node (top ++ names) ≠ some .dir)
    (hnode : ∀ place, t₂.node place
      = if place = top ++ names then some (.file content) else t₁.node place) :
    Extracting os destination t t₂ top where
  found := h.found.imp fun _ hfound => FileTree.walk_like (fun place n hn => by
    by_cases hplace : place = top ++ names
    · rw [hnode, if_pos hplace]
      subst hplace
      cases n with
      | dir => exact absurd hn hleaf
      | link target => exact absurd hn (h.noLinks names target)
      | file content => exact ⟨_, rfl, trivial⟩
    · rw [hnode, if_neg hplace]
      exact ⟨n, hn, .refl n⟩) hfound
  dir := by
    rw [hnode, if_neg, h.dir]
    intro htop
    exact hleaf (htop ▸ h.dir)
  noLinks below target hlink := by
    rw [hnode] at hlink
    split_ifs at hlink
    · cases hlink
    · exact h.noLinks below target hlink
  outside place hplace := by
    rw [hnode, if_neg]
    · exact h.outside place hplace
    · rintro rfl
      exact hplace (List.prefix_append _ _)

theorem memberPath_contained {member : ZipEntry} (h : Contained member) :
    memberPath destination member.filename
      = ⟨destination.absolute,
        destination.steps ++ (pathParts member.filename).map PathStep.down⟩ := by
  unfold memberPath
  rw [if_neg h.relative]
  have hsteps : (pathParts member.filename).map stepOf
      = (pathParts member.filename).map PathStep.down :=
    List.map_congr_left fun part hpart => if_neg fun heq : part = ".." => h.below (heq ▸ hpart)
  rw [hsteps]

variable (runtime) in
/-- A member changes the tree below the destination, and makes directories. -/
theorem extractMember_keeps (h : Extracting os destination t t₁ top) {member : ZipEntry}
    (hmember : Contained member) (content : ByteText) :
    Extracting os destination t
      (extractMember runtime os content destination member t₁).2 top := by
  unfold extractMember
  rw [memberPath_contained hmember]
  dsimp only
  generalize hsteps : (destination.steps
    ++ (pathParts member.filename).map PathStep.down).dropLast.reverse = reversed
  have hgrows := FileTree.makeDirs_grows os destination.absolute true reversed t₁
  cases hmade : os.makeDirs destination.absolute true t₁ reversed with
  | mk r t' =>
      rw [hmade] at hgrows
      have hkept := h.grows hgrows
      cases r with
      | error e => exact hkept
      | ok u =>
          dsimp only
          cases runtime.openMember content member with
          | error e => exact hkept
          | ok stream =>
              dsimp only
              cases hwritten : os.writeFile t' ⟨destination.absolute, destination.steps
                  ++ (pathParts member.filename).map PathStep.down⟩ stream.bytes with
              | error e => exact hkept
              | ok t'' =>
                  obtain ⟨left, hfound⟩ := hkept.found
                  obtain ⟨hleaf, hnode⟩ :=
                    FileTree.writeFile_below hfound hkept.dir hkept.noLinks hwritten
                  exact hkept.written hleaf hnode

variable (runtime) in
theorem extractMembers_keeps {members : List ZipEntry} (content : ByteText)
    (hmembers : ∀ member ∈ members, Contained member)
    (h : Extracting os destination t t₁ top) :
    Extracting os destination t
      (extractMembers runtime os content destination members t₁).2 top := by
  induction members generalizing t₁ with
  | nil => exact h
  | cons member members ih =>
      have hrest := fun m hm => hmembers m (List.mem_cons_of_mem _ hm)
      rw [extractMembers]
      split_ifs
      · exact ih hrest h
      · have hkept := extractMember_keeps runtime h
          (hmembers member List.mem_cons_self) content
        cases hmember : extractMember runtime os content destination member t₁ with
        | mk r t' =>
            rw [hmember] at hkept
            cases r with
            | error e => exact hkept
            | ok u => exact ih hrest hkept

/-! ## The destination -/

/-- What the emptied destination is: a new directory, or the one it was. -/
theorem emptyDestination_ok (h : emptyDestination os t destination = (.ok (), t₁)) :
    ∃ top, Vacant os destination t t₁ top ∧ (t.node top = none
      ∨ t.node top = some .dir ∧ ∃ left, os.lookup t destination = .ok (.at top left)) := by
  unfold emptyDestination at h
  split_ifs at h with hexists
  · cases hremoved : os.removeTree t destination with
    | mk r t' =>
        rw [hremoved] at h
        cases r with
        | error e => cases h
        | ok u =>
            obtain ⟨top, left, hlookup, hdir, hvacant⟩ := FileTree.vacant_of_removed hremoved h
            exact ⟨top, hvacant, .inr ⟨hdir, left, hlookup⟩⟩
  · obtain ⟨t₀, s, -, -, hgrows, -, -, hnone, hvacant⟩ := FileTree.makeDirs_made h
    refine ⟨s.place, hvacant, .inl ?_⟩
    cases hplace : t.node s.place with
    | none => rfl
    | some n => cases hnone.symm.trans (hgrows.keep _ _ hplace)

/-- The archive is as it was inspected, if it is still there. -/
theorem readFile_again {path : FilePath Str} {content content' : ByteText}
    (hvacant : Vacant os destination t t₁ top) (htop : t.node top = none ∨ t.node top = some .dir)
    (h : os.readFile t path = .ok content) (h' : os.readFile t₁ path = .ok content') :
    content = content' := by
  have hcompatible : Compatible t t₁ := hvacant.compatible fun n hn => by
    rcases htop with hnone | hdir
    · cases hnone.symm.trans hn
    · exact Option.some.inj (hn.symm.trans hdir)
  obtain ⟨place, left, hlookup, hnode⟩ := FileTree.readFile_ok h
  obtain ⟨place', left', hlookup', hnode'⟩ := FileTree.readFile_ok h'
  obtain rfl := FileTree.walk_agree hcompatible hlookup hlookup'
  exact FileTree.Node.file.inj (hcompatible _ _ _ hnode hnode')

/-! ## Outside of the destination -/

/-- A place of the directory that the destination led to, or else leads to now. -/
def InDestination (os : Process Str) (destination : FilePath Str) (t t' : Files)
    (place : List Str) : Prop :=
  ∃ top left, top <+: place ∧ (os.lookup t destination = .ok (.at top left)
    ∨ t.node top = none ∧ os.lookup t' destination = .ok (.at top left))

/-- Outside of the destination directories are made, and no links anywhere. -/
structure Confined (os : Process Str) (destination : FilePath Str) (t t' : Files) : Prop where
  outside : ∀ place, t'.node place = t.node place
    ∨ t.node place = none ∧ t'.node place = some .dir ∨ InDestination os destination t t' place
  links : ∀ place target, t'.node place = some (.link target) → t.node place = some (.link target)

theorem Confined.refl : Confined os destination t t :=
  ⟨fun _ => .inl rfl, fun _ _ h => h⟩

theorem confined_of_grows {new : List Str → Prop} (h : Grows new t t₁) :
    Confined os destination t t₁ where
  outside place := (h place).imp_right fun hadded => .inl hadded.2
  links place target hlink := by
    rcases h place with heq | ⟨-, -, hdir⟩
    · exact heq ▸ hlink
    · cases hdir.symm.trans hlink

theorem Extracting.confined (h : Extracting os destination t t₁ top)
    (htop : t.node top = none
      ∨ t.node top = some .dir ∧ ∃ left, os.lookup t destination = .ok (.at top left)) :
    Confined os destination t t₁ where
  outside place := by
    by_cases hplace : top <+: place
    · refine .inr (.inr ?_)
      rcases htop with hnone | ⟨-, left, hlookup⟩
      · obtain ⟨left, hfound⟩ := h.found
        exact ⟨top, left, hplace, .inr ⟨hnone, hfound⟩⟩
      · exact ⟨top, left, hplace, .inl hlookup⟩
    · exact (h.outside place hplace).imp_right .inl
  links place target hlink := by
    by_cases hplace : top <+: place
    · obtain ⟨below, rfl⟩ := hplace
      exact absurd hlink (h.noLinks below target)
    · rcases h.outside place hplace with heq | ⟨-, hdir⟩
      · exact heq ▸ hlink
      · cases hdir.symm.trans hlink

/-- Wherever emptying the destination stops, it keeps to it. -/
theorem emptyDestination_confined (os : Process Str) (destination : FilePath Str) (t : Files) :
    Confined os destination t (emptyDestination os t destination).2 := by
  cases hempty : emptyDestination os t destination with
  | mk r t' =>
      cases r with
      | ok u =>
          obtain ⟨top, hvacant, htop⟩ := emptyDestination_ok hempty
          exact (extracting_of_vacant hvacant).confined htop
      | error e =>
          unfold emptyDestination at hempty
          split_ifs at hempty
          · have hremoved := FileTree.removeTree_outside os t destination
            cases hremove : os.removeTree t destination with
            | mk r t₁ =>
                rw [hremove] at hempty hremoved
                have hconfined : Confined os destination t t₁ := by
                  rcases hremoved with rfl | ⟨top, left, hlookup, hplaces⟩
                  · exact .refl
                  · refine ⟨fun place => (hplaces place).imp_right fun hbelow =>
                      .inr ⟨top, left, hbelow.1, .inl hlookup⟩, fun place target hlink => ?_⟩
                    rcases hplaces place with heq | ⟨-, hnone⟩
                    · exact heq ▸ hlink
                    · cases hnone.symm.trans hlink
                cases r with
                | error e' =>
                    obtain rfl := (Prod.mk.inj hempty).2
                    exact hconfined
                | ok u =>
                    have hgrows := FileTree.makeDirs_grows os destination.absolute false
                      destination.steps.reverse t₁
                    dsimp only at hempty
                    rw [hempty] at hgrows
                    refine ⟨fun place => ?_, fun place target hlink => ?_⟩
                    · rcases hremoved with rfl | ⟨top, left, hlookup, hplaces⟩
                      · exact (confined_of_grows hgrows).outside place
                      · rcases hplaces place with heq | ⟨hbelow, -⟩
                        · rw [← heq]
                          exact (hgrows place).imp_right fun hadded => .inl hadded.2
                        · exact .inr (.inr ⟨top, left, hbelow, .inl hlookup⟩)
                    · rcases hgrows place with heq | ⟨-, -, hdir⟩
                      · exact hconfined.links place target (heq ▸ hlink)
                      · cases hdir.symm.trans hlink
          · have hgrows := FileTree.makeDirs_grows os destination.absolute false
              destination.steps.reverse t
            rw [hempty] at hgrows
            exact confined_of_grows hgrows

/-- The ways of an extraction: the archive is refused, it stops at the destination or at
the archive that is gone, or the members of the inspected archive are extracted. -/
theorem extractArchive_cases (runtime : ArchiveRuntime) (os : Process Str) (t : Files)
    (path destination : FilePath Str) :
    (∃ e, inspectArchive runtime os t path none = .error e
        ∧ extractArchive runtime os t path destination = (.error e, t))
      ∨ ∃ inventory, inspectArchive runtime os t path none = .ok inventory
        ∧ ((∃ e, extractArchive runtime os t path destination
              = (.error e, (emptyDestination os t destination).2))
          ∨ ∃ t₁ content members, emptyDestination os t destination = (.ok (), t₁)
            ∧ os.readFile t₁ path = .ok content ∧ runtime.infolist content = .ok members
            ∧ extractArchive runtime os t path destination
              = ((extractMembers runtime os content destination members t₁).1.map
                  fun _ => inventory,
                (extractMembers runtime os content destination members t₁).2)) := by
  unfold extractArchive
  cases inspectArchive runtime os t path none with
  | error e => exact .inl ⟨e, rfl, rfl⟩
  | ok inventory =>
      refine .inr ⟨inventory, rfl, ?_⟩
      cases emptyDestination os t destination with
      | mk r t₁ =>
          cases r with
          | error e => exact .inl ⟨_, rfl⟩
          | ok u =>
              dsimp only
              cases hread : os.readFile t₁ path with
              | error e => exact .inl ⟨_, rfl⟩
              | ok content =>
                  dsimp only
                  cases hlist : runtime.infolist content with
                  | error e => exact .inl ⟨_, rfl⟩
                  | ok members =>
                      refine .inr ⟨t₁, content, members, rfl, hread, hlist, ?_⟩
                      dsimp only
                      cases extractMembers runtime os content destination members t₁ with
                      | mk r t₂ => cases r <;> rfl

/-- The archive that is extracted is the one that was inspected. -/
theorem inspected_again {path : FilePath Str} {inventory : ArchiveInventory} {content : ByteText}
    {members : List ZipEntry} (hvacant : Vacant os destination t t₁ top)
    (htop : t.node top = none ∨ t.node top = some .dir)
    (hinspect : inspectArchive runtime os t path none = .ok inventory)
    (hread : os.readFile t₁ path = .ok content) (hlist : runtime.infolist content = .ok members) :
    os.readFile t path = .ok content ∧ members.length ≤ maxArchiveEntries
      ∧ (∀ member ∈ members, Contained member)
      ∧ inventory.uncompressedBytes = (members.map ZipEntry.fileSize).sum
      ∧ inventory.uncompressedBytes ≤ maxArchiveUncompressedBytes := by
  obtain ⟨content', members', hread', hlist', hrest⟩ := inspectArchive_ok hinspect
  obtain rfl := readFile_again hvacant htop hread' hread
  obtain rfl := Except.ok.inj (hlist'.symm.trans hlist)
  exact ⟨hread', hrest⟩

/-- **No archive leaves its destination.** Whatever the names, links and sizes of its
members and wherever the extraction stops: an archive that is refused changes
nothing, and of any other only directories are made outside of the directory that
the destination leads to, and no links. -/
theorem extraction_confined (runtime : ArchiveRuntime) (os : Process Str) (t : Files)
    (path destination : FilePath Str) :
    (∀ e, inspectArchive runtime os t path none = .error e →
        (extractArchive runtime os t path destination).2 = t)
      ∧ Confined os destination t (extractArchive runtime os t path destination).2 := by
  rcases extractArchive_cases runtime os t path destination with
    ⟨e, hinspect, hresult⟩ | ⟨inventory, hinspect, hways⟩
  · rw [hresult]
    exact ⟨fun _ _ => rfl, .refl⟩
  · refine ⟨fun e he => (by cases hinspect.symm.trans he), ?_⟩
    rcases hways with ⟨e, hresult⟩ | ⟨t₁, content, members, hemptied, hread, hlist, hresult⟩
    · rw [hresult]
      exact emptyDestination_confined os destination t
    · obtain ⟨top, hvacant, htop⟩ := emptyDestination_ok hemptied
      obtain ⟨-, -, hcontained, -⟩ :=
        inspected_again hvacant (htop.imp_right And.left) hinspect hread hlist
      rw [hresult]
      exact (extractMembers_keeps runtime content hcontained
        (extracting_of_vacant hvacant)).confined htop

/-! ## What the destination holds -/

/-- What files of such paths are below their directory, where the last of a path
counts. -/
def laid (files : List (List Str × ByteText)) (below : List Str) :
    Option (FileTree.Node Str Nat) :=
  match files.reverse.find? fun file => file.1 = below with
  | some file => some (.file file.2)
  | none => if files.any fun file => below.isPrefixOf file.1 then some .dir else none

theorem laid_last (files : List (List Str × ByteText)) (parts : List Str) (bytes : ByteText) :
    laid (files ++ [(parts, bytes)]) parts = some (.file bytes) := by
  have hfind : ((parts, bytes) :: files.reverse).find? (fun file => file.1 = parts)
      = some (parts, bytes) := List.find?_cons_of_pos (decide_eq_true rfl)
  unfold laid
  rw [List.reverse_append, List.reverse_singleton, List.singleton_append, hfind]

theorem laid_other {files : List (List Str × ByteText)} {parts below : List Str}
    {bytes : ByteText} (hne : below ≠ parts) (hwithin : ¬below <+: parts) :
    laid (files ++ [(parts, bytes)]) below = laid files below := by
  have hfar : below.isPrefixOf parts = false :=
    Bool.eq_false_iff.mpr fun h => hwithin (List.isPrefixOf_iff_prefix.mp h)
  unfold laid
  rw [List.reverse_append, List.reverse_singleton, List.singleton_append,
    List.find?_cons_of_neg (fun h => hne (of_decide_eq_true h).symm), List.any_append,
    List.any_cons, List.any_nil, hfar, Bool.or_false, Bool.or_false]

theorem laid_above {files : List (List Str × ByteText)} {parts below : List Str}
    {bytes : ByteText} (hne : below ≠ parts) (hwithin : below <+: parts)
    (hfile : ∀ content, laid files below ≠ some (.file content)) :
    laid (files ++ [(parts, bytes)]) below = some .dir := by
  have hnear : below.isPrefixOf parts = true := List.isPrefixOf_iff_prefix.mpr hwithin
  unfold laid at hfile ⊢
  rw [List.reverse_append, List.reverse_singleton, List.singleton_append,
    List.find?_cons_of_neg (fun h => hne (of_decide_eq_true h).symm), List.any_append,
    List.any_cons, hnear, Bool.true_or, Bool.or_true]
  cases hfind : files.reverse.find? fun file => file.1 = below with
  | some file =>
      rw [hfind] at hfile
      exact absurd rfl (hfile file.2)
  | none => rfl

/-- The files of a directory are those that are laid there. -/
def Holds (t : Files) (top : List Str) (files : List (List Str × ByteText)) : Prop :=
  ∀ below, below ≠ [] → t.node (top ++ below) = laid files below

/-- Behind the directories of a path, its file. -/
theorem member_laid {files : List (List Str × ByteText)} {front : List Str} {last : Str}
    {bytes : ByteText} {t' : Files} (hholds : Holds t₁ top files)
    (hgrows : Grows (fun place => ∃ above, above <+: front ∧ place = top ++ above) t₁ t')
    (hfront : t'.node (top ++ front) = some .dir)
    (hnode : ∀ place, t₂.node place
      = if place = top ++ (front ++ [last]) then some (.file bytes) else t'.node place) :
    Holds t₂ top (files ++ [(front ++ [last], bytes)]) := by
  intro below hbelow
  rw [hnode]
  by_cases hlast : below = front ++ [last]
  · rw [if_pos (by rw [hlast]), hlast, laid_last]
  · rw [if_neg fun heq => hlast (List.append_cancel_left heq)]
    by_cases hwithin : below <+: front ++ [last]
    · -- a directory above the file
      have hdir : t'.node (top ++ below) = some .dir := by
        obtain ⟨rest, hrest⟩ := hwithin
        rcases List.eq_nil_or_concat rest with rfl | ⟨rest, name, rfl⟩
        · exact absurd (by rw [← hrest, List.append_nil]) hlast
        · rw [List.concat_eq_append, ← List.append_assoc] at hrest
          obtain ⟨rfl, -⟩ := List.append_inj' hrest rfl
          by_cases hnil : rest = []
          · rwa [hnil, List.append_nil] at hfront
          · rw [← List.append_assoc] at hfront
            exact t'.node_append hnil (by rw [hfront]; exact Option.some_ne_none _)
      rw [hdir, laid_above hlast hwithin fun content hfile => ?_]
      have hold := hgrows.keep _ _ ((hholds below hbelow).trans hfile)
      cases hold.symm.trans hdir
    · rw [laid_other hlast hwithin, ← hholds below hbelow]
      rcases hgrows (top ++ below) with hsame | ⟨⟨above, habove, heq⟩, -⟩
      · exact hsame
      · rw [List.append_cancel_left heq] at hwithin
        exact absurd (habove.trans (List.prefix_append _ _)) hwithin

/-- A member that is extracted lays its file. -/
theorem extractMember_lays (h : Extracting os destination t t₁ top) {member : ZipEntry}
    (hmember : Contained member) {content : ByteText} {files : List (List Str × ByteText)}
    (hholds : Holds t₁ top files)
    (hok : extractMember runtime os content destination member t₁ = (.ok (), t₂)) :
    ∃ bytes, runtime.openMember content member = .ok ⟨bytes, .ok ()⟩
      ∧ Holds t₂ top (files ++ [(pathParts member.filename, bytes)]) := by
  unfold extractMember at hok
  rw [memberPath_contained hmember] at hok
  dsimp only at hok
  obtain ⟨left, hfound⟩ := h.found
  generalize pathParts member.filename = parts at hok
  cases hmade : os.makeDirs destination.absolute true t₁
      (destination.steps ++ parts.map PathStep.down).dropLast.reverse with
  | mk r t' =>
      rw [hmade] at hok
      cases r with
      | error e => cases hok
      | ok u =>
          dsimp only at hok
          cases hopen : runtime.openMember content member with
          | error e =>
              rw [hopen] at hok
              cases hok
          | ok stream =>
              rw [hopen] at hok
              dsimp only at hok
              cases hwritten : os.writeFile t' ⟨destination.absolute,
                  destination.steps ++ parts.map PathStep.down⟩ stream.bytes with
              | error e =>
                  rw [hwritten] at hok
                  cases hok
              | ok t'' =>
                  rw [hwritten] at hok
                  obtain ⟨hending, rfl⟩ := Prod.mk.inj hok
                  have hcomplete : stream.ending = .ok () := by
                    cases hstream : stream.ending with
                    | error e =>
                        rw [hstream] at hending
                        cases hending
                    | ok u => rfl
                  refine ⟨stream.bytes, by rw [← hcomplete], ?_⟩
                  have hgrown := FileTree.makeDirs_grows os destination.absolute true
                    (destination.steps ++ parts.map PathStep.down).dropLast.reverse t₁
                  rw [hmade] at hgrown
                  have hkept := h.grows hgrown
                  obtain ⟨left', hfound'⟩ := hkept.found
                  obtain ⟨hleaf, hnode⟩ :=
                    FileTree.writeFile_below hfound' hkept.dir hkept.noLinks hwritten
                  rcases List.eq_nil_or_concat parts with rfl | ⟨front, last, rfl⟩
                  · exact absurd hkept.dir (by rwa [List.append_nil] at hleaf)
                  · rw [List.concat_eq_append] at hmade hleaf hnode ⊢
                    have hdropped : (destination.steps
                        ++ (front ++ [last]).map PathStep.down).dropLast
                        = destination.steps ++ front.map PathStep.down := by
                      rw [List.map_append, ← List.append_assoc]
                      exact List.dropLast_concat
                    rw [hdropped] at hmade
                    obtain ⟨hbelow, hdirs⟩ :=
                      FileTree.makeDirs_below hfound h.dir h.noLinks front
                    rw [hmade] at hbelow hdirs
                    exact member_laid hholds hbelow (hdirs rfl) hnode

/-- The file that a member is extracted to. -/
def ExtractedAs (runtime : ArchiveRuntime) (content : ByteText) (member : ZipEntry)
    (file : List Str × ByteText) : Prop :=
  file.1 = pathParts member.filename
    ∧ runtime.openMember content member = .ok ⟨file.2, .ok ()⟩

theorem extractMembers_lay {members : List ZipEntry} {content : ByteText}
    (hmembers : ∀ member ∈ members, Contained member)
    (h : Extracting os destination t t₁ top) {files : List (List Str × ByteText)}
    (hholds : Holds t₁ top files)
    (hok : extractMembers runtime os content destination members t₁ = (.ok (), t₂)) :
    ∃ more, List.Forall₂ (ExtractedAs runtime content)
        (members.filter fun member => !isDirectory member) more
      ∧ Holds t₂ top (files ++ more) := by
  induction members generalizing t₁ files with
  | nil =>
      cases hok
      exact ⟨[], .nil, by rwa [List.append_nil]⟩
  | cons member members ih =>
      have hrest := fun m hm => hmembers m (List.mem_cons_of_mem _ hm)
      rw [extractMembers] at hok
      by_cases hdirectory : isDirectory member = true
      · rw [if_pos hdirectory] at hok
        rw [List.filter_cons_of_neg (by rw [hdirectory]; exact Bool.noConfusion)]
        exact ih hrest h hholds hok
      · rw [if_neg hdirectory] at hok
        rw [List.filter_cons_of_pos (by rw [Bool.eq_false_iff.mpr hdirectory]; rfl)]
        have hmember := hmembers member List.mem_cons_self
        have hkept := extractMember_keeps runtime h hmember content
        cases hextract : extractMember runtime os content destination member t₁ with
        | mk r t' =>
            rw [hextract] at hok hkept
            cases r with
            | error e => cases hok
            | ok u =>
                obtain ⟨bytes, hopen, hlaid⟩ := extractMember_lays h hmember hholds hextract
                obtain ⟨more, hmore, hall⟩ := ih hrest hkept hlaid hok
                refine ⟨(pathParts member.filename, bytes) :: more,
                  .cons ⟨rfl, hopen⟩ hmore, ?_⟩
                rwa [List.append_assoc] at hall

/-- The bytes that are written are bounded by the sizes that were inspected. -/
theorem extracted_bytes {content : ByteText} {members : List ZipEntry}
    {files : List (List Str × ByteText)}
    (h : List.Forall₂ (ExtractedAs runtime content) members files) :
    (files.map fun file => file.2.length).sum ≤ (members.map ZipEntry.fileSize).sum := by
  induction h with
  | nil => exact Nat.le_refl 0
  | cons hmember _ ih =>
      rw [List.map_cons, List.map_cons, List.sum_cons, List.sum_cons]
      exact Nat.add_le_add (runtime.bounded _ _ _ hmember.2) ih

/-- **What an archive leaves.** Where the extraction succeeds, the destination is a
directory that holds exactly the files of the members, completely read and the last
of each path, with the directories above them; they are no more than the limits of
the inspection. -/
theorem extracted_contents {path : FilePath Str} {inventory : ArchiveInventory}
    (h : extractArchive runtime os t path destination = (.ok inventory, t₂)) :
    ∃ content members files top left,
      os.readFile t path = .ok content ∧ runtime.infolist content = .ok members
      ∧ List.Forall₂ (ExtractedAs runtime content)
        (members.filter fun member => !isDirectory member) files
      ∧ os.lookup t₂ destination = .ok (.at top left) ∧ t₂.node top = some .dir
      ∧ Holds t₂ top files ∧ files.length ≤ maxArchiveEntries
      ∧ (files.map fun file => file.2.length).sum ≤ inventory.uncompressedBytes
      ∧ inventory.uncompressedBytes ≤ maxArchiveUncompressedBytes := by
  rcases extractArchive_cases runtime os t path destination with
    ⟨e, -, hresult⟩ | ⟨inventory', hinspect, hways⟩
  · cases hresult.symm.trans h
  rcases hways with ⟨e, hresult⟩ | ⟨t₁, content, members, hemptied, hread, hlist, hresult⟩
  · cases hresult.symm.trans h
  obtain ⟨hok, rfl⟩ := Prod.mk.inj (hresult.symm.trans h)
  obtain ⟨u, hextract, rfl⟩ := map_eq_ok hok
  obtain ⟨top, hvacant, htop⟩ := emptyDestination_ok hemptied
  obtain ⟨hread', hcount, hcontained, hsum, hbound⟩ :=
    inspected_again hvacant (htop.imp_right And.left) hinspect hread hlist
  have hstart := extracting_of_vacant hvacant
  have hkept := extractMembers_keeps runtime content hcontained hstart
  obtain ⟨left, hfound⟩ := hkept.found
  have hempty : Holds t₁ top [] := fun below hbelow => hvacant.empty below hbelow
  obtain ⟨files, hfiles, hholds⟩ :=
    extractMembers_lay hcontained hstart hempty (Prod.ext hextract rfl)
  have hfilter : (members.filter fun member => !isDirectory member).Sublist members :=
    List.filter_sublist
  refine ⟨content, members, files, top, left, hread', hlist, hfiles, hfound, hkept.dir, hholds,
    ?_, ?_, hbound⟩
  · rw [← hfiles.length_eq]
    exact hfilter.length_le.trans hcount
  · rw [hsum]
    exact (extracted_bytes hfiles).trans ((hfilter.map _).sum_le_sum fun _ _ => Nat.zero_le _)

/-! ## An archive with one file -/

def oneMember : ZipEntry := ⟨"notes/a.md", 0, 0, 2, 2⟩

/-- An archive is its own only member. -/
def storedRuntime : ArchiveRuntime where
  infolist _ := .ok [oneMember]
  openMember content member := .ok ⟨content.take member.fileSize, .ok ()⟩
  casefold text := text
  sha256 _ := []
  bounded content entry stream h := by
    obtain rfl := Except.ok.inj h
    exact List.length_take_le _ _

/-- An archive, and a directory that a link leads to. -/
def linkedFiles : Files :=
  .ofEntries [(["a.zip"], .file [104, 105]), (["work"], .dir), (["work", "out"], .dir),
    (["work", "out", "old"], .file [0]), (["current"], .link ⟨true, [.down "work"]⟩)] (by decide)

def rootProcess : Process Str := ⟨[], 40, fun _ => false⟩

theorem extracted_contents_linked : ∃ inventory t₂ files top left,
    extractArchive storedRuntime rootProcess linkedFiles ⟨false, [.down "a.zip"]⟩
        ⟨false, [.down "current", .down "out"]⟩ = (.ok inventory, t₂)
      ∧ rootProcess.lookup t₂ ⟨false, [.down "current", .down "out"]⟩ = .ok (.at top left)
      ∧ Holds t₂ top files ∧ files.length = 1 := by
  have hok : (extractArchive storedRuntime rootProcess linkedFiles ⟨false, [.down "a.zip"]⟩
      ⟨false, [.down "current", .down "out"]⟩).1.toOption.isSome = true := by decide +kernel
  cases hresult : extractArchive storedRuntime rootProcess linkedFiles ⟨false, [.down "a.zip"]⟩
      ⟨false, [.down "current", .down "out"]⟩ with
  | mk r t₂ =>
      cases r with
      | error e =>
          rw [hresult] at hok
          cases hok
      | ok inventory =>
          obtain ⟨content, members, files, top, left, -, hlist, hfiles, hlookup, -, hholds, -⟩ :=
            extracted_contents hresult
          obtain rfl : [oneMember] = members := Except.ok.inj hlist
          refine ⟨inventory, t₂, files, top, left, rfl, hlookup, hholds, ?_⟩
          rw [← hfiles.length_eq]
          decide

end Rigor.ArchiveExtraction
