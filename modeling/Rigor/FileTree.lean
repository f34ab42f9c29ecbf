import Mathlib.Data.List.Basic
import Mathlib.Data.List.Induction
import Mathlib.Tactic.SplitIfs

/-!
# Trees of files

Paths are resolved from a directory one component at a time, through the links that
they meet, as the kernel does. What an operation changes is said at places, which
are the names from the root (`Grows`, `Tree.replace`); a walk that ends stays as it
is where nodes are added (`walk_mono`), and below a directory without links it
leads to the place it names (`walk_names`).
-/

namespace FileTree

/-- A component of a path. -/
inductive PathStep (N : Type) where
  | up
  | down (name : N)
  deriving DecidableEq

structure FilePath (N : Type) where
  absolute : Bool
  steps : List (PathStep N)
  deriving DecidableEq

inductive Node (N B : Type) where
  | dir
  | file (content : List B)
  | link (target : FilePath N)
  deriving DecidableEq

inductive OsError where
  | noEntry
  | notDirectory
  | isDirectory
  | fileExists
  | loop
  | notEmpty
  | refused
  deriving DecidableEq

/-- The nodes at their places. Every node but the root is in a directory. -/
structure Tree (N B : Type) where
  node : List N → Option (Node N B)
  root : node [] = some .dir
  parent : ∀ place name, node (place ++ [name]) ≠ none → node place = some .dir

/-- How a process sees the tree: its directory, the links that a path may lead
through, and where the system lets it make nothing. -/
structure Process (N : Type) where
  cwd : List N
  links : Nat
  refuses : List N → Bool

/-- Where a path leads: to a node, with the links that are left, or to a name that a
directory does not have. -/
inductive Found (N : Type) where
  | at (place : List N) (links : Nat)
  | missing (directory : List N) (name : N)
  deriving DecidableEq

variable {N B : Type}

/-! ## Places -/

namespace Tree

variable (t : Tree N B)

/-- Above a node are directories. -/
theorem node_append {place below : List N} (hbelow : below ≠ [])
    (h : t.node (place ++ below) ≠ none) : t.node place = some .dir := by
  induction below using List.reverseRecOn with
  | nil => exact absurd rfl hbelow
  | append_singleton front name ih =>
      rw [← List.append_assoc] at h
      have hfront := t.parent _ _ h
      by_cases hnil : front = []
      · rwa [hnil, List.append_nil] at hfront
      · exact ih hnil (by rw [hfront]; exact Option.some_ne_none _)

/-- Below what is no directory there is nothing. -/
theorem node_below {place below : List N} (hbelow : below ≠ []) (h : t.node place ≠ some .dir) :
    t.node (place ++ below) = none := by
  by_contra hsome
  exact h (t.node_append hbelow hsome)

variable [DecidableEq N]

/-- A node that is no directory is put in the place of one that is none. -/
def replace (directory : List N) (name : N) (n : Node N B)
    (hdir : t.node directory = some .dir) (hleaf : t.node (directory ++ [name]) ≠ some .dir) :
    Tree N B where
  node place := if place = directory ++ [name] then some n else t.node place
  root := by rw [if_neg (by simp), t.root]
  parent place next h := by
    by_cases hnew : place ++ [next] = directory ++ [name]
    · obtain ⟨rfl, -⟩ := List.append_inj' hnew rfl
      rw [if_neg (by simp), hdir]
    · rw [if_neg hnew] at h
      have hplace := t.parent place next h
      rw [if_neg, hplace]
      rintro rfl
      exact hleaf hplace

omit t in
/-- The root and the entries that are listed. -/
def listed (entries : List (List N × Node N B)) (place : List N) : Option (Node N B) :=
  if place = [] then some .dir else (entries.find? fun e => e.1 = place).map Prod.snd

omit t in
def ofEntries (entries : List (List N × Node N B))
    (hentries : ∀ e ∈ entries, listed entries e.1.dropLast = some .dir) : Tree N B where
  node := listed entries
  root := if_pos rfl
  parent place name h := by
    unfold listed at h
    rw [if_neg (by simp)] at h
    cases hfind : entries.find? fun e => e.1 = place ++ [name] with
    | none =>
        rw [hfind] at h
        exact absurd rfl h
    | some e =>
        have hplace : e.1 = place ++ [name] := by simpa using List.find?_some hfind
        have hentry := hentries e (List.mem_of_find?_eq_some hfind)
        rwa [hplace, List.dropLast_concat] at hentry

/-- Without what is below the place. -/
def clear (top : List N) : Tree N B where
  node place := if top <+: place ∧ place ≠ top then none else t.node place
  root := by
    rw [if_neg, t.root]
    rintro ⟨hwithin, hne⟩
    exact hne (List.prefix_nil.mp hwithin).symm
  parent place name h := by
    split_ifs at h with hcleared
    · exact absurd rfl h
    · have hplace := t.parent place name h
      rw [if_neg, hplace]
      rintro ⟨hwithin, hne⟩
      refine hcleared ⟨hwithin.trans (List.prefix_append _ _), fun heq => ?_⟩
      have := hwithin.length_le
      rw [← heq, List.length_append, List.length_singleton] at this
      omega

/-- Without the node and what is below it. -/
def prune (directory : List N) (name : N) : Tree N B where
  node place := if directory ++ [name] <+: place then none else t.node place
  root := by rw [if_neg (by simp), t.root]
  parent place next h := by
    split_ifs at h with hpruned
    · exact absurd rfl h
    · rw [if_neg fun hwithin => hpruned (hwithin.trans (List.prefix_append _ _))]
      exact t.parent place next h

end Tree

/-! ## Walks -/

variable (t : Tree N B)

/-- The way of the components from a directory; behind a link `follow` goes on. -/
def walkTo (links : Nat) (follow : List N → List (PathStep N) → Except OsError (Found N)) :
    List N → List (PathStep N) → Except OsError (Found N)
  | place, [] => .ok (.at place links)
  | place, .up :: steps => walkTo links follow place.dropLast steps
  | place, .down name :: steps =>
      match t.node (place ++ [name]) with
      | none => if steps.isEmpty then .ok (.missing place name) else .error .noEntry
      | some .dir => walkTo links follow (place ++ [name]) steps
      | some (.file _) =>
          if steps.isEmpty then .ok (.at (place ++ [name]) links) else .error .notDirectory
      | some (.link target) =>
          follow (if target.absolute then [] else place) (target.steps ++ steps)

/-- The way of the components through so many links. -/
def walk : Nat → List N → List (PathStep N) → Except OsError (Found N)
  | 0 => walkTo t 0 fun _ _ => .error .loop
  | links + 1 => walkTo t (links + 1) (walk links)

theorem walk_nil (links : Nat) (place : List N) :
    walk t links place [] = .ok (.at place links) := by
  cases links <;> rfl

theorem walk_up (links : Nat) (place : List N) (steps : List (PathStep N)) :
    walk t links place (.up :: steps) = walk t links place.dropLast steps := by
  cases links <;> rfl

theorem walk_down (links : Nat) (place : List N) (name : N) (steps : List (PathStep N)) :
    walk t links place (.down name :: steps)
      = match t.node (place ++ [name]) with
        | none => if steps.isEmpty then .ok (.missing place name) else .error .noEntry
        | some .dir => walk t links (place ++ [name]) steps
        | some (.file _) =>
            if steps.isEmpty then .ok (.at (place ++ [name]) links) else .error .notDirectory
        | some (.link target) =>
            match links with
            | 0 => .error .loop
            | links + 1 =>
                walk t links (if target.absolute then [] else place) (target.steps ++ steps) := by
  cases links <;> rfl

/-- Along a walk: the components, and behind a link those of its target. -/
theorem walk_induction {motive : Nat → List N → List (PathStep N) → Prop}
    (nil : ∀ links place, motive links place [])
    (up : ∀ links place steps, motive links place.dropLast steps →
      motive links place (.up :: steps))
    (down : ∀ links place name steps,
      (t.node (place ++ [name]) = some .dir → motive links (place ++ [name]) steps) →
      (∀ target rest, t.node (place ++ [name]) = some (.link target) → links = rest + 1 →
        motive rest (if target.absolute then [] else place) (target.steps ++ steps)) →
      motive links place (.down name :: steps))
    (links : Nat) (place : List N) (steps : List (PathStep N)) : motive links place steps := by
  induction links generalizing place steps with
  | zero =>
      induction steps generalizing place with
      | nil => exact nil 0 place
      | cons step steps ih =>
          cases step with
          | up => exact up 0 place steps (ih _)
          | down name => exact down 0 place name steps (fun _ => ih _) fun _ _ _ h => by cases h
  | succ links ihLinks =>
      induction steps generalizing place with
      | nil => exact nil _ place
      | cons step steps ih =>
          cases step with
          | up => exact up _ place steps (ih _)
          | down name =>
              refine down _ place name steps (fun _ => ih _) fun target rest _ h => ?_
              obtain rfl : links = rest := Nat.succ.inj h
              exact ihLinks _ _

variable {t} {t' : Tree N B}

/-- A node of the same kind, where the content of a file is no matter. -/
def Node.Like : Node N B → Node N B → Prop
  | .dir, .dir => True
  | .file _, .file _ => True
  | .link target, .link target' => target = target'
  | _, _ => False

theorem Node.Like.refl (n : Node N B) : n.Like n := by
  cases n with
  | dir => trivial
  | file content => trivial
  | link target => rfl

/-- A walk that ends stays as it is where nodes are added and files are written. -/
theorem walk_like
    (hle : ∀ place n, t.node place = some n → ∃ n', t'.node place = some n' ∧ n.Like n')
    {links left : Nat} {place found : List N} {steps : List (PathStep N)}
    (h : walk t links place steps = .ok (.at found left)) :
    walk t' links place steps = .ok (.at found left) := by
  induction links, place, steps using walk_induction t with
  | nil links place => rwa [walk_nil] at h ⊢
  | up links place steps ih =>
      rw [walk_up] at h ⊢
      exact ih h
  | down links place name steps ihDir ihLink =>
      rw [walk_down] at h ⊢
      cases hnode : t.node (place ++ [name]) with
      | none =>
          rw [hnode] at h
          dsimp only at h
          split_ifs at h
          cases h
      | some n =>
          rw [hnode] at h
          obtain ⟨n', hnode', hlike⟩ := hle _ _ hnode
          rw [hnode']
          cases n with
          | dir =>
              cases n' with
              | dir => exact ihDir hnode h
              | _ => exact hlike.elim
          | file content =>
              cases n' with
              | file content' => exact h
              | _ => exact hlike.elim
          | link target =>
              cases n' with
              | link target' =>
                  cases hlike
                  cases links with
                  | zero => cases h
                  | succ rest => exact ihLink target rest hnode rfl h
              | _ => exact hlike.elim

theorem walk_mono (hle : ∀ place n, t.node place = some n → t'.node place = some n)
    {links left : Nat} {place found : List N} {steps : List (PathStep N)}
    (h : walk t links place steps = .ok (.at found left)) :
    walk t' links place steps = .ok (.at found left) :=
  walk_like (fun place n hnode => ⟨n, hle place n hnode, .refl n⟩) h

/-- No place has a node in one tree and another in the other. -/
def Compatible (t t' : Tree N B) : Prop :=
  ∀ place n n', t.node place = some n → t'.node place = some n' → n = n'

/-- The nodes of both. -/
def Tree.union (t t' : Tree N B) (h : Compatible t t') : Tree N B where
  node place := (t.node place).or (t'.node place)
  root := by rw [t.root, Option.some_or]
  parent place name hnode := by
    cases hown : t.node (place ++ [name]) with
    | some n =>
        rw [t.parent place name (by rw [hown]; exact Option.some_ne_none _), Option.some_or]
    | none =>
        rw [hown, Option.none_or] at hnode
        have hother := t'.parent place name hnode
        cases hplace : t.node place with
        | none => rw [Option.none_or, hother]
        | some n => rw [Option.some_or, h place n _ hplace hother]

/-- Where a way ends in two trees that are compatible, it ends at one place. -/
theorem walk_agree (hcompatible : Compatible t t') {links left left' : Nat}
    {place found found' : List N} {steps : List (PathStep N)}
    (h : walk t links place steps = .ok (.at found left))
    (h' : walk t' links place steps = .ok (.at found' left')) : found = found' := by
  have hunion : walk (t.union t' hcompatible) links place steps = .ok (.at found left) :=
    walk_mono (fun place n hnode => by
      show (t.node place).or (t'.node place) = some n
      rw [hnode, Option.some_or]) h
  have hunion' : walk (t.union t' hcompatible) links place steps = .ok (.at found' left') :=
    walk_mono (fun place n hnode => by
      show (t.node place).or (t'.node place) = some n
      cases hplace : t.node place with
      | none => rw [Option.none_or, hnode]
      | some m => rw [Option.some_or, hcompatible place m n hplace hnode]) h'
  exact (Found.at.inj (Except.ok.inj (hunion.symm.trans hunion'))).1

/-- The way goes on from the directory it leads to. -/
theorem walk_append {links left : Nat} {place found : List N} {front back : List (PathStep N)}
    (h : walk t links place front = .ok (.at found left)) (hfound : t.node found = some .dir) :
    walk t links place (front ++ back) = walk t left found back := by
  induction links, place, front using walk_induction t with
  | nil links place =>
      rw [walk_nil] at h
      cases h
      rfl
  | up links place steps ih =>
      rw [walk_up] at h
      rw [List.cons_append, walk_up, ih h]
  | down links place name steps ihDir ihLink =>
      rw [walk_down] at h
      rw [List.cons_append, walk_down]
      cases hnode : t.node (place ++ [name]) with
      | none =>
          rw [hnode] at h
          dsimp only at h
          split_ifs at h
          cases h
      | some n =>
          rw [hnode] at h
          cases n with
          | dir => exact ihDir hnode h
          | file content =>
              dsimp only at h
              split_ifs at h
              cases h
              cases hnode.symm.trans hfound
          | link target =>
              cases links with
              | zero => cases h
              | succ rest =>
                  dsimp only
                  rw [← List.append_assoc]
                  exact ihLink target rest hnode rfl h

/-- There is no link below. -/
def NoLinks (t : Tree N B) (top : List N) : Prop :=
  ∀ below target, t.node (top ++ below) ≠ some (.link target)

/-- Below a directory without links, names lead to the place that they name. -/
theorem walk_names {top : List N} (hlinks : NoLinks t top) {links : Nat} {names : List N}
    {f : Found N} (h : walk t links top (names.map PathStep.down) = .ok f) :
    f = .at (top ++ names) links
      ∨ ∃ front name, names = front ++ [name] ∧ f = .missing (top ++ front) name := by
  induction names generalizing top with
  | nil =>
      rw [List.map_nil, walk_nil] at h
      cases h
      exact .inl (by rw [List.append_nil])
  | cons name names ih =>
      rw [List.map_cons, walk_down] at h
      split at h
      · split_ifs at h with hnil
        cases h
        obtain rfl : names = [] := by simpa using hnil
        exact .inr ⟨[], name, rfl, by rw [List.append_nil]⟩
      · have hbelow : NoLinks t (top ++ [name]) := fun below target => by
          rw [List.append_assoc]
          exact hlinks _ target
        rcases ih hbelow h with rfl | ⟨front, last, rfl, rfl⟩
        · exact .inl (by rw [List.append_assoc]; rfl)
        · exact .inr ⟨name :: front, last, rfl, by rw [List.append_assoc]; rfl⟩
      · split_ifs at h with hnil
        cases h
        obtain rfl : names = [] := by simpa using hnil
        exact .inl rfl
      · rename_i target hnode
        exact absurd hnode (hlinks [name] target)

/-! ## Calls -/

variable (os : Process N) (t)

/-- Where a path leads. -/
def Process.lookup (path : FilePath N) : Except OsError (Found N) :=
  walk t os.links (if path.absolute then [] else os.cwd) path.steps

def Process.isDir (path : FilePath N) : Bool :=
  match os.lookup t path with
  | .ok (.at place _) =>
      match t.node place with
      | some .dir => true
      | _ => false
  | _ => false

def Process.exists (path : FilePath N) : Bool :=
  match os.lookup t path with
  | .ok (.at _ _) => true
  | _ => false

def Process.readFile (path : FilePath N) : Except OsError (List B) :=
  match os.lookup t path with
  | .error e => .error e
  | .ok (.missing _ _) => .error .noEntry
  | .ok (.at place _) =>
      match t.node place with
      | some (.file content) => .ok content
      | _ => .error .isDirectory

variable {t} {os} in
theorem readFile_ok {path : FilePath N} {content : List B}
    (h : os.readFile t path = .ok content) :
    ∃ place left, os.lookup t path = .ok (.at place left)
      ∧ t.node place = some (.file content) := by
  unfold Process.readFile at h
  split at h
  · cases h
  · cases h
  · rename_i place left hlookup
    split at h
    · rename_i content' hnode
      obtain rfl := Except.ok.inj h
      exact ⟨place, left, hlookup, hnode⟩
    · cases h

/-- A name in a directory. -/
structure Slot (t : Tree N B) where
  directory : List N
  name : N
  isDir : t.node directory = some .dir

def Slot.place {t : Tree N B} (s : Slot t) : List N := s.directory ++ [s.name]

/-- The directory and the name that a path ends with, unless it ends otherwise. A
link under that name is not followed. -/
def Process.slot (path : FilePath N) : Except OsError (Option (Slot t)) :=
  match path.steps.getLast? with
  | some (.down name) =>
      match os.lookup t ⟨path.absolute, path.steps.dropLast⟩ with
      | .error e => .error e
      | .ok (.missing _ _) => .error .noEntry
      | .ok (.at directory _) =>
          match h : t.node directory with
          | some .dir => .ok (some ⟨directory, name, h⟩)
          | _ => .error .notDirectory
  | _ => (os.lookup t path).map fun _ => none

variable [DecidableEq N]

/-- `mkdir`. -/
def Process.makeDir (path : FilePath N) : Except OsError (Tree N B) :=
  match os.slot t path with
  | .error e => .error e
  | .ok none => .error .fileExists
  | .ok (some s) =>
      match h : t.node s.place with
      | some _ => .error .fileExists
      | none =>
          if os.refuses s.place then .error .refused
          else .ok (t.replace s.directory s.name .dir s.isDir fun hd => by cases h.symm.trans hd)

/-- `Path.mkdir`, where the directories above are made too. -/
def Process.makeDirs (absolute existOk : Bool) (t : Tree N B) :
    (reversed : List (PathStep N)) → Except OsError Unit × Tree N B
  | [] => ⟨if existOk then .ok () else .error .fileExists, t⟩
  | step :: above =>
      let path : FilePath N := ⟨absolute, (step :: above).reverse⟩
      match os.makeDir t path with
      | .ok t' => ⟨.ok (), t'⟩
      | .error .noEntry =>
          match Process.makeDirs absolute true t above with
          | (.error e, t') => ⟨.error e, t'⟩
          | (.ok (), t') =>
              match os.makeDir t' path with
              | .ok t'' => ⟨.ok (), t''⟩
              | .error .noEntry => ⟨.error .noEntry, t'⟩
              | .error e => ⟨if existOk && os.isDir t' path then .ok () else .error e, t'⟩
      | .error e => ⟨if existOk && os.isDir t path then .ok () else .error e, t⟩

/-- A file under a name: it is made, or another content takes the place of its own. -/
def Tree.makeFile (directory : List N) (name : N) (content : List B) :
    Except OsError (Tree N B) :=
  match hdir : t.node directory with
  | some .dir =>
      match hleaf : t.node (directory ++ [name]) with
      | none => .ok (t.replace directory name (.file content) hdir
          fun hd => by cases hleaf.symm.trans hd)
      | some (.file _) => .ok (t.replace directory name (.file content) hdir
          fun hd => by cases hleaf.symm.trans hd)
      | some _ => .error .isDirectory
  | _ => .error .notDirectory

/-- `open(path, "wb")`, and what is written. -/
def Process.writeFile (path : FilePath N) (content : List B) : Except OsError (Tree N B) :=
  match os.lookup t path with
  | .error e => .error e
  | .ok (.missing directory name) =>
      if os.refuses (directory ++ [name]) then .error .refused
      else t.makeFile directory name content
  | .ok (.at place _) =>
      match place.getLast? with
      | none => .error .isDirectory
      | some name =>
          if os.refuses place then .error .refused else t.makeFile place.dropLast name content

/-- `shutil.rmtree`: what is below goes first, then the path is resolved once more
for the directory itself. -/
def Process.removeTree (path : FilePath N) : Except OsError Unit × Tree N B :=
  match os.slot t path with
  | .error e => ⟨.error e, t⟩
  | .ok none =>
      match os.lookup t path with
      | .ok (.at place _) => ⟨.error .notEmpty, t.clear place⟩
      | _ => ⟨.error .noEntry, t⟩
  | .ok (some s) =>
      match t.node s.place with
      | none => ⟨.error .noEntry, t⟩
      | some (.file _) => ⟨.error .notDirectory, t⟩
      | some (.link _) => ⟨.error .refused, t⟩
      | some .dir =>
          match os.slot (t.clear s.place) path with
          | .ok (some again) =>
              if again.place = s.place then ⟨.ok (), (t.clear s.place).prune s.directory s.name⟩
              else ⟨.error .notEmpty, t.clear s.place⟩
          | .ok none => ⟨.error .notEmpty, t.clear s.place⟩
          | .error e => ⟨.error e, t.clear s.place⟩

/-! ## What grows -/

/-- What is new is directories at such places. -/
def Grows (new : List N → Prop) (t t' : Tree N B) : Prop :=
  ∀ place, t'.node place = t.node place
    ∨ new place ∧ t.node place = none ∧ t'.node place = some .dir

variable {t} {os} {t'' : Tree N B} {new new' : List N → Prop}

omit [DecidableEq N] in
theorem Grows.refl : Grows new t t := fun _ => .inl rfl

omit [DecidableEq N] in
theorem Grows.keep (h : Grows new t t') (place : List N) (n : Node N B)
    (hnode : t.node place = some n) : t'.node place = some n := by
  rcases h place with heq | ⟨-, hnone, -⟩
  · rw [heq, hnode]
  · cases hnone.symm.trans hnode

omit [DecidableEq N] in
theorem Grows.trans (h : Grows new t t') (h' : Grows new t' t'') : Grows new t t'' := by
  intro place
  rcases h' place with heq | ⟨hnew, hnone, hdir⟩
  · rw [heq]
    exact h place
  · rcases h place with heq | ⟨-, -, hdir'⟩
    · exact .inr ⟨hnew, heq ▸ hnone, hdir⟩
    · cases hnone.symm.trans hdir'

omit [DecidableEq N] in
theorem Grows.weaken (h : Grows new t t') (hle : ∀ place, new place → new' place) :
    Grows new' t t' :=
  fun place => (h place).imp_right fun hadded => ⟨hle _ hadded.1, hadded.2⟩

omit [DecidableEq N] in
theorem Grows.noLinks (h : Grows new t t') {top : List N} (hlinks : NoLinks t top) :
    NoLinks t' top := by
  intro below target hlink
  rcases h (top ++ below) with heq | ⟨-, -, hdir⟩
  · exact hlinks below target (heq ▸ hlink)
  · cases hdir.symm.trans hlink

omit [DecidableEq N] in
/-- Before its last name, a way that ends leads to a directory. -/
theorem walk_front {links left : Nat} {place found : List N} {front : List (PathStep N)}
    {name : N} (h : walk t links place (front ++ [.down name]) = .ok (.at found left)) :
    ∃ directory left', walk t links place front = .ok (.at directory left')
      ∧ t.node directory = some .dir := by
  induction links, place, front using walk_induction t with
  | nil links place =>
      refine ⟨_, _, walk_nil t links place, t.parent place name fun hnone => ?_⟩
      rw [List.nil_append, walk_down, hnone] at h
      cases h
  | up links place steps ih =>
      rw [List.cons_append, walk_up] at h
      rw [walk_up]
      exact ih h
  | down links place next steps ihDir ihLink =>
      rw [List.cons_append, walk_down] at h
      rw [walk_down]
      have hmore : (steps ++ [PathStep.down name]).isEmpty = false := by
        cases steps <;> rfl
      cases hnode : t.node (place ++ [next]) with
      | none =>
          rw [hnode, hmore] at h
          cases h
      | some n =>
          rw [hnode] at h
          cases n with
          | dir => exact ihDir hnode h
          | file content =>
              rw [hmore] at h
              cases h
          | link target =>
              cases links with
              | zero => cases h
              | succ rest =>
                  dsimp only at h
                  rw [← List.append_assoc] at h
                  exact ihLink target rest hnode rfl h

omit [DecidableEq N] in
/-- The directory of a slot is where the front of its path leads. -/
theorem slot_some {path : FilePath N} {s : Slot t} (h : os.slot t path = .ok (some s)) :
    ∃ front left, path.steps = front ++ [.down s.name]
      ∧ os.lookup t ⟨path.absolute, front⟩ = .ok (.at s.directory left) := by
  unfold Process.slot at h
  split at h
  · rename_i name hlast
    split at h
    · cases h
    · cases h
    · rename_i directory left hlookup
      split at h
      · cases h
        refine ⟨path.steps.dropLast, left, ?_, hlookup⟩
        exact (List.dropLast_append_getLast? _ hlast).symm
      · cases h
  · cases hlookup : os.lookup t path with
    | error e =>
        rw [hlookup] at h
        cases h
    | ok f =>
        rw [hlookup] at h
        cases h

omit [DecidableEq N] in
/-- The slot's node is where the path leads. -/
theorem lookup_of_slot {path : FilePath N} {front : List (PathStep N)} {name : N}
    {directory : List N} {left : Nat} (hpath : path.steps = front ++ [.down name])
    (hfront : os.lookup t ⟨path.absolute, front⟩ = .ok (.at directory left))
    (hdir : t.node directory = some .dir) (hnode : t.node (directory ++ [name]) = some .dir) :
    os.lookup t path = .ok (.at (directory ++ [name]) left) := by
  unfold Process.lookup
  rw [hpath, walk_append hfront hdir, walk_down, hnode]
  exact walk_nil t _ _

/-- What a path leads to is not made. -/
theorem makeDir_exists {path : FilePath N} {place : List N} {left : Nat}
    (h : os.lookup t path = .ok (.at place left)) : os.makeDir t path = .error .fileExists := by
  unfold Process.makeDir
  cases hslot : os.slot t path with
  | error e =>
      unfold Process.slot at hslot
      split at hslot
      · rename_i name hlast
        have hsteps := List.dropLast_append_getLast? _ hlast
        unfold Process.lookup at h
        rw [← hsteps] at h
        obtain ⟨directory, left', hfront, hdir⟩ := walk_front h
        have hlookup : os.lookup t ⟨path.absolute, path.steps.dropLast⟩
          = .ok (.at directory left') := hfront
        rw [hlookup] at hslot
        dsimp only at hslot
        split at hslot
        · cases hslot
        · rename_i hnot
          exact absurd hdir hnot
      · rw [h] at hslot
        cases hslot
  | ok s =>
      cases s with
      | none => rfl
      | some s =>
          obtain ⟨front, left', hpath, hfront⟩ := slot_some hslot
          dsimp only
          split
          · rfl
          · rename_i hnone
            unfold Process.lookup at h
            rw [hpath, walk_append hfront s.isDir, walk_down] at h
            change t.node (s.directory ++ [s.name]) = none at hnone
            rw [hnone] at h
            cases h

theorem makeDir_ok {path : FilePath N} (h : os.makeDir t path = .ok t') :
    ∃ s : Slot t, os.slot t path = .ok (some s) ∧ t.node s.place = none
      ∧ ∀ place, t'.node place = if place = s.place then some .dir else t.node place := by
  unfold Process.makeDir at h
  cases hslot : os.slot t path with
  | error e =>
      rw [hslot] at h
      cases h
  | ok s =>
      rw [hslot] at h
      cases s with
      | none => cases h
      | some s =>
          dsimp only at h
          split at h
          · cases h
          · rename_i hnone
            split_ifs at h
            cases h
            exact ⟨s, rfl, hnone, fun _ => rfl⟩

omit [DecidableEq N] in
theorem isDir_iff {path : FilePath N} : os.isDir t path = true
    ↔ ∃ place left, os.lookup t path = .ok (.at place left) ∧ t.node place = some .dir := by
  unfold Process.isDir
  constructor
  · intro h
    split at h
    · rename_i place left hlookup
      split at h
      · rename_i hdir
        exact ⟨place, left, hlookup, hdir⟩
      · cases h
    · cases h
  · rintro ⟨place, left, hlookup, hdir⟩
    rw [hlookup]
    dsimp only
    rw [hdir]

theorem makeDir_grows {path : FilePath N} (h : os.makeDir t path = .ok t') :
    Grows (fun _ => True) t t' := by
  obtain ⟨s, -, hnone, hnode⟩ := makeDir_ok h
  intro place
  rw [hnode]
  split_ifs with hplace
  · exact .inr ⟨trivial, hplace ▸ hnone, rfl⟩
  · exact .inl rfl

variable (os) in
/-- `makeDirs` adds directories only, also where it fails. -/
theorem makeDirs_grows (absolute existOk : Bool) (reversed : List (PathStep N))
    (t : Tree N B) :
    Grows (fun _ => True) t (os.makeDirs absolute existOk t reversed).2 := by
  induction reversed generalizing existOk t with
  | nil => exact .refl
  | cons step above ih =>
      rw [Process.makeDirs]
      split
      · rename_i t' hmake
        exact makeDir_grows hmake
      · split
        · rename_i e t' habove
          exact habove ▸ ih true t
        · rename_i t' habove
          have hgrows : Grows (fun _ => True) t t' := by
            have := ih true t
            rwa [habove] at this
          split
          · rename_i t'' hmake
            exact hgrows.trans (makeDir_grows hmake)
          · exact hgrows
          · exact hgrows
      · exact .refl

/-- What is made without leave to be there is made last. -/
theorem makeDirs_new {absolute : Bool} {reversed : List (PathStep N)}
    (h : os.makeDirs absolute false t reversed = (.ok (), t')) :
    ∃ t₀, Grows (fun _ => True) t t₀ ∧ os.makeDir t₀ ⟨absolute, reversed.reverse⟩ = .ok t' := by
  cases reversed with
  | nil => cases h
  | cons step above =>
      rw [Process.makeDirs] at h
      split at h
      · rename_i t₁ hmake
        cases h
        exact ⟨t, .refl, hmake⟩
      · have hgrows := makeDirs_grows os absolute true above t
        split at h
        · cases h
        · rename_i t₁ habove
          rw [habove] at hgrows
          split at h
          · rename_i t₂ hmake
            cases h
            exact ⟨t₁, hgrows, hmake⟩
          · cases h
          · rw [Bool.false_and] at h
            cases h
      · rw [Bool.false_and] at h
        cases h

variable {absolute : Bool} {front : List (PathStep N)} {top : List N} {left : Nat}

omit [DecidableEq N] in
/-- Behind a path to a directory without links, names lead to the place that they name. -/
theorem lookup_names (hlookup : os.lookup t ⟨absolute, front⟩ = .ok (.at top left))
    (htop : t.node top = some .dir) (hlinks : NoLinks t top) {names : List N} {f : Found N}
    (h : os.lookup t ⟨absolute, front ++ names.map PathStep.down⟩ = .ok f) :
    f = .at (top ++ names) left
      ∨ ∃ above name, names = above ++ [name] ∧ f = .missing (top ++ above) name := by
  unfold Process.lookup at h hlookup
  rw [walk_append hlookup htop] at h
  exact walk_names hlinks h

/-- A directory below is made at the place that its names say. -/
theorem makeDir_below (hlookup : os.lookup t ⟨absolute, front⟩ = .ok (.at top left))
    (htop : t.node top = some .dir) (hlinks : NoLinks t top) {names : List N} {name : N}
    (h : os.makeDir t ⟨absolute, front ++ (names ++ [name]).map PathStep.down⟩ = .ok t') :
    t.node (top ++ (names ++ [name])) = none
      ∧ ∀ place, t'.node place
        = if place = top ++ (names ++ [name]) then some .dir else t.node place := by
  obtain ⟨s, hslot, hnone, hnode⟩ := makeDir_ok h
  obtain ⟨front', left', hpath, hfront⟩ := slot_some hslot
  rw [List.map_append, ← List.append_assoc] at hpath
  obtain ⟨rfl, hname⟩ := List.append_inj' hpath rfl
  obtain rfl : name = s.name := by simpa using hname
  have hplace : s.place = top ++ (names ++ [s.name]) := by
    rcases lookup_names hlookup htop hlinks hfront with heq | ⟨_, _, -, heq⟩
    · rw [Slot.place, (Found.at.inj heq).1, List.append_assoc]
    · cases heq
  rw [← hplace]
  exact ⟨hnone, hnode⟩

/-- The directories that are made below are those of the names. -/
theorem makeDirs_below (hlookup : os.lookup t ⟨absolute, front⟩ = .ok (.at top left))
    (htop : t.node top = some .dir) (hlinks : NoLinks t top) (names : List N) :
    Grows (fun place => ∃ above, above <+: names ∧ place = top ++ above) t
        (os.makeDirs absolute true t (front ++ names.map PathStep.down).reverse).2
      ∧ ((os.makeDirs absolute true t (front ++ names.map PathStep.down).reverse).1 = .ok () →
        (os.makeDirs absolute true t (front ++ names.map PathStep.down).reverse).2.node
          (top ++ names) = some .dir) := by
  induction names using List.reverseRecOn with
  | nil =>
      rw [List.map_nil, List.append_nil, List.append_nil]
      have hsame : os.makeDirs absolute true t front.reverse = (.ok (), t) := by
        cases hreversed : front.reverse with
        | nil => rfl
        | cons step above =>
            have hfront : (step :: above).reverse = front := by
              rw [← hreversed, List.reverse_reverse]
            rw [Process.makeDirs]
            rw [hfront, makeDir_exists hlookup]
            dsimp only
            rw [isDir_iff.mpr ⟨top, left, hlookup, htop⟩]
            rfl
      rw [hsame]
      exact ⟨.refl, fun _ => htop⟩
  | append_singleton names name ih =>
      have hreversed : (front ++ (names ++ [name]).map PathStep.down).reverse
          = PathStep.down name :: (front ++ names.map PathStep.down).reverse := by simp
      have hpath : (PathStep.down name :: (front ++ names.map PathStep.down).reverse).reverse
          = front ++ (names ++ [name]).map PathStep.down := by simp
      -- a directory that is there is the one at the names
      have hthere : ∀ t₁ : Tree N B, Grows (fun place => ∃ above, above <+: names ++ [name]
            ∧ place = top ++ above) t t₁ →
          os.isDir t₁ ⟨absolute, front ++ (names ++ [name]).map PathStep.down⟩ = true →
          t₁.node (top ++ (names ++ [name])) = some .dir := by
        intro t₁ hgrows hdir
        obtain ⟨place, left', hfound, hnode⟩ := isDir_iff.mp hdir
        rcases lookup_names (walk_mono hgrows.keep hlookup) (hgrows.keep _ _ htop)
          (hgrows.noLinks hlinks) hfound with heq | ⟨_, _, -, heq⟩
        · cases heq
          exact hnode
        · cases heq
      have hmade : ∀ t₁ t₂ : Tree N B, Grows (fun place => ∃ above, above <+: names ++ [name]
            ∧ place = top ++ above) t t₁ →
          os.makeDir t₁ ⟨absolute, front ++ (names ++ [name]).map PathStep.down⟩ = .ok t₂ →
          Grows (fun place => ∃ above, above <+: names ++ [name] ∧ place = top ++ above) t t₂
            ∧ t₂.node (top ++ (names ++ [name])) = some .dir := by
        intro t₁ t₂ hgrows hmake
        obtain ⟨hnone, hnode⟩ := makeDir_below (walk_mono hgrows.keep hlookup)
          (hgrows.keep _ _ htop) (hgrows.noLinks hlinks) hmake
        refine ⟨hgrows.trans fun place => ?_, by rw [hnode, if_pos rfl]⟩
        rw [hnode]
        split_ifs with hplace
        · exact .inr ⟨⟨_, List.prefix_refl _, hplace⟩, hplace ▸ hnone, rfl⟩
        · exact .inl rfl
      rw [hreversed, Process.makeDirs, hpath]
      cases hfirst : os.makeDir t ⟨absolute, front ++ (names ++ [name]).map PathStep.down⟩ with
      | ok t₁ =>
          obtain ⟨hgrows, hnode⟩ := hmade t t₁ .refl hfirst
          exact ⟨hgrows, fun _ => hnode⟩
      | error e =>
          have hsettled : ∀ e', ((if (true && os.isDir t ⟨absolute, front
              ++ (names ++ [name]).map PathStep.down⟩) = true then .ok () else .error e'
                : Except OsError Unit) = .ok ()) →
              t.node (top ++ (names ++ [name])) = some .dir := by
            intro e' hok
            split_ifs at hok with hdir
            exact hthere t .refl hdir
          cases e with
          | noEntry =>
              dsimp only
              cases habove : os.makeDirs absolute true t
                  (front ++ names.map PathStep.down).reverse with
              | mk r t₁ =>
                  rw [habove] at ih
                  have hgrows : Grows (fun place => ∃ above, above <+: names ++ [name]
                      ∧ place = top ++ above) t t₁ := ih.1.weaken fun place hplace => by
                    obtain ⟨above, hwithin, heq⟩ := hplace
                    exact ⟨above, hwithin.trans (List.prefix_append _ _), heq⟩
                  cases r with
                  | error e => exact ⟨hgrows, fun hok => by cases hok⟩
                  | ok u =>
                      dsimp only
                      cases hsecond : os.makeDir t₁ ⟨absolute, front
                          ++ (names ++ [name]).map PathStep.down⟩ with
                      | ok t₂ =>
                          obtain ⟨hgrows', hnode⟩ := hmade t₁ t₂ hgrows hsecond
                          exact ⟨hgrows', fun _ => hnode⟩
                      | error e =>
                          cases e with
                          | noEntry => exact ⟨hgrows, fun hok => by cases hok⟩
                          | _ =>
                              refine ⟨hgrows, fun hok => ?_⟩
                              dsimp only at hok
                              split_ifs at hok with hdir
                              exact hthere t₁ hgrows hdir
          | _ => exact ⟨.refl, hsettled _⟩

theorem makeFile_ok {directory : List N} {name : N} {content : List B}
    (h : t.makeFile directory name content = .ok t') :
    t.node (directory ++ [name]) ≠ some .dir
      ∧ ∀ place, t'.node place
        = if place = directory ++ [name] then some (.file content) else t.node place := by
  unfold Tree.makeFile at h
  split at h
  · split at h
    · rename_i hleaf
      cases h
      exact ⟨fun hnode => (by cases hleaf.symm.trans hnode), fun _ => rfl⟩
    · rename_i hleaf
      cases h
      exact ⟨fun hnode => (by cases hleaf.symm.trans hnode), fun _ => rfl⟩
    · cases h
  · cases h

/-- A file below is written at the place that its names say. -/
theorem writeFile_below (hlookup : os.lookup t ⟨absolute, front⟩ = .ok (.at top left))
    (htop : t.node top = some .dir) (hlinks : NoLinks t top) {names : List N} {content : List B}
    (h : os.writeFile t ⟨absolute, front ++ names.map PathStep.down⟩ content = .ok t') :
    t.node (top ++ names) ≠ some .dir
      ∧ ∀ place, t'.node place
        = if place = top ++ names then some (.file content) else t.node place := by
  unfold Process.writeFile at h
  cases hfound : os.lookup t ⟨absolute, front ++ names.map PathStep.down⟩ with
  | error e =>
      rw [hfound] at h
      cases h
  | ok f =>
      rw [hfound] at h
      rcases lookup_names hlookup htop hlinks hfound with rfl | ⟨above, name, rfl, rfl⟩
      · dsimp only at h
        split at h
        · cases h
        · rename_i name hlast
          split_ifs at h
          have hplace := List.dropLast_append_getLast? _ hlast
          have hwritten := makeFile_ok h
          rwa [hplace] at hwritten
      · dsimp only at h
        split_ifs at h
        have hwritten := makeFile_ok h
        rwa [List.append_assoc] at hwritten

/-! ## A directory that is replaced -/

variable (os) in
/-- What `removeTree` changes is where its path leads, and below. -/
theorem removeTree_outside (t : Tree N B) (path : FilePath N) :
    (os.removeTree t path).2 = t
      ∨ ∃ top left, os.lookup t path = .ok (.at top left)
        ∧ ∀ place, (os.removeTree t path).2.node place = t.node place
          ∨ top <+: place ∧ (os.removeTree t path).2.node place = none := by
  have hclear : ∀ (top : List N) place, (t.clear top).node place = t.node place
      ∨ top <+: place ∧ (t.clear top).node place = none := by
    intro top place
    by_cases hbelow : top <+: place ∧ place ≠ top
    · exact .inr ⟨hbelow.1, if_pos hbelow⟩
    · exact .inl (if_neg hbelow)
  unfold Process.removeTree
  cases hslot : os.slot t path with
  | error e => exact .inl rfl
  | ok s =>
      cases s with
      | none =>
          dsimp only
          split
          · rename_i place left hlookup
            exact .inr ⟨place, left, hlookup, hclear place⟩
          · exact .inl rfl
      | some s =>
          dsimp only
          cases hnode : t.node s.place with
          | none => exact .inl rfl
          | some n =>
              cases n with
              | file content => exact .inl rfl
              | link target => exact .inl rfl
              | dir =>
                  obtain ⟨front, left, hpath, hfront⟩ := slot_some hslot
                  refine .inr ⟨s.place, left, lookup_of_slot hpath hfront s.isDir hnode, ?_⟩
                  dsimp only
                  split
                  · split_ifs
                    · intro place
                      by_cases hwithin : s.place <+: place
                      · exact .inr ⟨hwithin, if_pos hwithin⟩
                      · exact .inl ((if_neg hwithin).trans (if_neg fun h => hwithin h.1))
                    · exact hclear s.place
                  · exact hclear s.place
                  · exact hclear s.place

theorem removeTree_ok {path : FilePath N} (h : os.removeTree t path = (.ok (), t')) :
    ∃ (s : Slot t) (front : List (PathStep N)) (left left' : Nat),
      path.steps = front ++ [.down s.name]
      ∧ os.lookup t path = .ok (.at s.place left)
      ∧ os.lookup (t.clear s.place) ⟨path.absolute, front⟩ = .ok (.at s.directory left')
      ∧ (t.clear s.place).node s.place = some .dir
      ∧ ∀ place, t'.node place = if s.place <+: place then none else t.node place := by
  unfold Process.removeTree at h
  cases hslot : os.slot t path with
  | error e =>
      rw [hslot] at h
      cases h
  | ok s =>
      rw [hslot] at h
      cases s with
      | none =>
          dsimp only at h
          split at h <;> cases h
      | some s =>
          dsimp only at h
          cases hnode : t.node s.place with
          | none =>
              rw [hnode] at h
              cases h
          | some n =>
              rw [hnode] at h
              cases n with
              | file content => cases h
              | link target => cases h
              | dir =>
                  dsimp only at h
                  split at h
                  · rename_i again hagain
                    split_ifs at h with hsame
                    · cases h
                      obtain ⟨front, left, hpath, hfront⟩ := slot_some hslot
                      obtain ⟨front', left', hpath', hfront'⟩ := slot_some hagain
                      obtain ⟨rfl, -⟩ := List.append_inj' (hpath.symm.trans hpath') rfl
                      rw [(List.append_inj' hsame rfl).1] at hfront'
                      refine ⟨s, front, left, left', hpath,
                        lookup_of_slot hpath hfront s.isDir hnode, hfront', ?_, fun place => ?_⟩
                      · exact (if_neg fun hbelow => hbelow.2 rfl).trans hnode
                      · by_cases hwithin : s.place <+: place
                        · exact (if_pos hwithin).trans (if_pos hwithin).symm
                        · exact ((if_neg hwithin).trans (if_neg fun h => hwithin h.1)).trans
                            (if_neg hwithin).symm
                    · cases h
                  · cases h
                  · cases h

/-- An empty directory at the end of a path, and outside of it a tree that grew. -/
structure Vacant (os : Process N) (path : FilePath N) (t t' : Tree N B) (top : List N) :
    Prop where
  found : ∃ left, os.lookup t' path = .ok (.at top left)
  dir : t'.node top = some .dir
  empty : ∀ below, below ≠ [] → t'.node (top ++ below) = none
  outside : ∀ place, ¬top <+: place → t'.node place = t.node place
    ∨ t.node place = none ∧ t'.node place = some .dir

omit [DecidableEq N] in
theorem append_of_prefix {top place : List N} (hwithin : top <+: place) (hne : place ≠ top) :
    ∃ below, below ≠ [] ∧ place = top ++ below := by
  obtain ⟨below, rfl⟩ := hwithin
  refine ⟨below, ?_, rfl⟩
  rintro rfl
  exact hne (List.append_nil _)

/-- The directory that `makeDirs` makes last. -/
theorem makeDirs_made {path : FilePath N}
    (h : os.makeDirs path.absolute false t path.steps.reverse = (.ok (), t')) :
    ∃ (t₀ : Tree N B) (s : Slot t₀) (front : List (PathStep N)) (left : Nat),
      Grows (fun _ => True) t t₀ ∧ path.steps = front ++ [.down s.name]
      ∧ os.lookup t₀ ⟨path.absolute, front⟩ = .ok (.at s.directory left)
      ∧ t₀.node s.place = none ∧ Vacant os path t t' s.place := by
  obtain ⟨t₀, hgrows, hmake⟩ := makeDirs_new h
  obtain ⟨s, hslot, hnone, hnode⟩ := makeDir_ok hmake
  obtain ⟨front, left, hpath, hfront⟩ := slot_some hslot
  rw [List.reverse_reverse] at hpath
  have hkeep := (makeDir_grows hmake).keep
  refine ⟨t₀, s, front, left, hgrows, hpath, hfront, hnone, ⟨left, ?_⟩, ?_, ?_, ?_⟩
  · exact lookup_of_slot hpath (walk_mono hkeep hfront) (hkeep _ _ s.isDir)
      ((hnode s.place).trans (if_pos rfl))
  · rw [hnode, if_pos rfl]
  · intro below hbelow
    rw [hnode, if_neg fun heq => hbelow (by simpa using heq)]
    exact t₀.node_below hbelow fun hdir => (by cases hnone.symm.trans hdir)
  · intro place hplace
    have hne : place ≠ s.place := fun heq => hplace ⟨[], by rw [List.append_nil, heq]⟩
    rw [hnode, if_neg hne]
    exact (hgrows place).imp_right And.right

/-- A directory that is removed and made again is at its place. -/
theorem vacant_of_removed {t₁ : Tree N B} {path : FilePath N}
    (hremoved : os.removeTree t path = (.ok (), t₁))
    (hmade : os.makeDirs path.absolute false t₁ path.steps.reverse = (.ok (), t')) :
    ∃ top left, os.lookup t path = .ok (.at top left) ∧ t.node top = some .dir
      ∧ Vacant os path t t' top := by
  obtain ⟨s, front, left, left', hpath, hlookup, hclear, hdir, hnode⟩ := removeTree_ok hremoved
  obtain ⟨t₀, s₀, front₀, left₀, hgrows, hpath₀, hfront₀, hnone₀, hvacant⟩ := makeDirs_made hmade
  obtain ⟨rfl, hname⟩ := List.append_inj' (hpath.symm.trans hpath₀) rfl
  have hname : s.name = s₀.name := by simpa using hname
  -- but for the directory, what was cleared is there again
  have hkept : ∀ place n, (t.clear s.place).node place = some n → place ≠ s.place →
      t₀.node place = some n := by
    intro place n hplace hne
    refine hgrows.keep _ _ ?_
    rw [hnode]
    by_cases hwithin : s.place <+: place
    · cases (if_pos ⟨hwithin, hne⟩ : (t.clear s.place).node place = none).symm.trans hplace
    · rw [if_neg hwithin]
      exact (if_neg fun h => hwithin h.1 : (t.clear s.place).node place = t.node place).symm.trans
        hplace
  have hcompatible : Compatible (t.clear s.place) t₀ := by
    intro place n n' hn hn'
    by_cases hne : place = s.place
    · subst hne
      cases hdir.symm.trans hn
      rcases hgrows s.place with hsame | ⟨-, -, hthere⟩
      · rw [hsame, hnode, if_pos (List.prefix_refl _)] at hn'
        cases hn'
      · exact Option.some.inj (hthere.symm.trans hn')
    · exact Option.some.inj ((hkept place n hn hne).symm.trans hn')
  have hplace : s₀.place = s.place := by
    rw [Slot.place, Slot.place, hname, walk_agree hcompatible hclear hfront₀]
  rw [hplace] at hvacant
  have htop : t.node s.place = some .dir :=
    (if_neg fun h => h.2 rfl : (t.clear s.place).node s.place = t.node s.place).symm.trans hdir
  refine ⟨s.place, left, hlookup, htop, hvacant.found, hvacant.dir, hvacant.empty,
    fun place hne => ?_⟩
  have hplace := hvacant.outside place hne
  rwa [hnode, if_neg hne] at hplace

omit [DecidableEq N] in
/-- An empty directory contradicts nothing, where no other node was in its place. -/
theorem Vacant.compatible {path : FilePath N} {top : List N} (h : Vacant os path t t' top)
    (htop : ∀ n, t.node top = some n → n = .dir) : Compatible t t' := by
  intro place n n' hn hn'
  by_cases hwithin : top <+: place
  · by_cases hne : place = top
    · subst hne
      exact (htop n hn).trans (Option.some.inj (h.dir.symm.trans hn'))
    · obtain ⟨below, hbelow, rfl⟩ := append_of_prefix hwithin hne
      cases (h.empty below hbelow).symm.trans hn'
  · rcases h.outside place hwithin with hsame | ⟨hnone, -⟩
    · exact Option.some.inj (hn.symm.trans (hsame.symm.trans hn'))
    · cases hnone.symm.trans hn

end FileTree
