import Mathlib
import Tandem.Proofs.Path
import Tandem.Proofs.Run.Scene

/-!
# Runs on a test bench

A *disk* holds files and directories, each under the components of its path (`Disk.get?`,
`Disk.put`). Paths are gone by as they are spelled: nothing is a link, `.` at the beginning of a path and
`..` are steps like any other, and the empty path can be listed. (Other ways in which paths can lead to
places are the subject of `Tandem.Proofs.Run.Apart`.) A *bench* is everything else that a run meets there: programs that turn their input into
output and an exit, and touch nothing else (`Bench.program`), what is refused for reasons that are not
on the disk, and a diff program.

Programs are started as on any other platform. A file is emptied when it is created, and a program
writes from its beginning on, so what a file held before is gone only because it was emptied. Then a
program that gets its input and its output leaves exactly its own output in the file
(`Bench.launch_eq`), and nothing else on the disk is changed.
-/

namespace Tandem

/-! ### Disks -/

/-- Where something stands: the components of the path that leads there. -/
abbrev Key := List Path.Component

/-- The component names something. -/
def Path.Component.isEntry : Path.Component → Bool
  | .entry _ => true
  | _ => false

/-- What stands somewhere. -/
inductive Entry where
  | file (data : Bytes)
  | dir
  deriving DecidableEq, Repr

/-- What is stored, in no particular order. A key is what a path spells: `.` at its beginning and `..` are
not resolved, so `./a` and `a` are two keys. The empty key is that of the empty path, and a directory. -/
structure Disk where
  entries : List (Key × Entry) := []
  deriving DecidableEq, Repr

namespace Disk

/-- What stands under a key. Where no name leads there is a directory: the root, or the directory where
relative paths begin. -/
def get? (d : Disk) (k : Key) : Option Entry :=
  match d.entries.lookup k with
  | some entry => some entry
  | none => if k.any Path.Component.isEntry then none else some .dir

/-- Replaces what is stored under a key, or stores it last. -/
def putIn (k : Key) (entry : Entry) : List (Key × Entry) → List (Key × Entry)
  | [] => [(k, entry)]
  | (k', e) :: rest => if k' = k then (k', entry) :: rest else (k', e) :: putIn k entry rest

/-- The disk with an entry under a key. -/
def put (d : Disk) (k : Key) (entry : Entry) : Disk :=
  ⟨putIn k entry d.entries⟩

/-- The bytes of a file. -/
def content (d : Disk) (k : Key) : Bytes :=
  match d.get? k with
  | some (.file data) => data
  | _ => []

/-- Writes a file from its beginning on. What it held further on stays. -/
def write (d : Disk) (k : Key) (bs : Bytes) : Disk :=
  d.put k (.file (bs ++ (d.content k).drop bs.length))

/-- The names in a directory. -/
def names (d : Disk) (dir : Key) : List Name :=
  (d.entries.filterMap fun (k, _) =>
    match k.getLast? with
    | some (.entry n) => if k.dropLast = dir ∧ n.Plain then some n else none
    | _ => none).dedup

variable (d : Disk) (k : Key) (entry : Entry)

theorem lookup_putIn (k' : Key) (entries : List (Key × Entry)) :
    (putIn k entry entries).lookup k' = if k' = k then some entry else entries.lookup k' := by
  have hcons (k₁ : Key) (e : Entry) (rest : List (Key × Entry)) :
      ((k₁, e) :: rest).lookup k' = if k' = k₁ then some e else rest.lookup k' := by
    by_cases h : k' = k₁
    · rw [List.lookup_cons, beq_iff_eq.mpr h, if_pos h]
    · rw [List.lookup_cons, beq_eq_false_iff_ne.mpr h, if_neg h]
  induction entries with
  | nil => exact hcons k entry []
  | cons first rest ih =>
    obtain ⟨k₁, e⟩ := first
    by_cases hfirst : k₁ = k
    · -- what was stored is replaced where it stood
      subst hfirst
      rw [putIn, if_pos rfl, hcons, hcons]
      split <;> rfl
    · rw [putIn, if_neg hfirst, hcons, hcons, ih]
      by_cases h : k' = k₁
      · rw [if_pos h, if_pos h, if_neg (h ▸ hfirst)]
      · rw [if_neg h, if_neg h]

theorem get?_put_self : (d.put k entry).get? k = some entry := by
  simp [get?, put, lookup_putIn]

/-- **Nothing but the entry itself is changed.** -/
theorem get?_put_of_ne {k' : Key} (h : k' ≠ k) : (d.put k entry).get? k' = d.get? k' := by
  simp [get?, put, lookup_putIn, h]

theorem put_put (entry' : Entry) : (d.put k entry).put k entry' = d.put k entry' := by
  have hputIn (entries : List (Key × Entry)) :
      putIn k entry' (putIn k entry entries) = putIn k entry' entries := by
    induction entries with
    | nil => simp [putIn]
    | cons first rest ih =>
      by_cases h : first.1 = k
      · simp [putIn, h]
      · simp [putIn, h, ih]
  rw [put, put, put, hputIn]

theorem content_of_get? {data : Bytes} (h : d.get? k = some (.file data)) : d.content k = data := by
  rw [content, h]

/-- What is written to an empty file is all that it holds. -/
theorem write_put_empty (bs : Bytes) : (d.put k (.file [])).write k bs = d.put k (.file bs) := by
  rw [write, content_of_get? _ _ (get?_put_self d k _), put_put, List.drop_nil, List.append_nil]

theorem plain_of_mem_names {dir : Key} {n : Name} (h : n ∈ d.names dir) : n.Plain := by
  rw [names, List.mem_dedup, List.mem_filterMap] at h
  obtain ⟨⟨k, e⟩, -, hk⟩ := h
  grind

end Disk

/-! ### Benches -/

/-- Something that can be refused. -/
inductive Access where
  | list
  | make
  | read
  | create
  deriving DecidableEq, Repr

/-- What a run meets besides the disk. -/
structure Bench where
  /-- What each program makes of its input: an output, and how it ends. -/
  program : Command → Bytes → Bytes × WaitStatus
  /-- What is refused although the disk would allow it. -/
  refusal : Access → Key → Option Fault
  /-- What a diff program does with two files. -/
  tool : Command → (expected actual : Path) → Disk → Except Fault Differ.ToolRun

namespace Bench

variable (b : Bench)

/-- Makes sure that an access is not refused. -/
def permit (access : Access) (p : Path) : Except Fault Unit :=
  match b.refusal access p.components with
  | some fault => .error fault
  | none => .ok ()

/-- Lists a directory. -/
def list (d : Disk) (p : Path) : Listing := do
  b.permit .list p
  match d.get? p.components with
  | some .dir => .ok ((d.names p.components).map .ok)
  | some (.file _) => .error (.os .notDir)
  | none => .error (.os .noEntry)

/-- Makes the directories on the way from one that stands under `above`. -/
def makeDirs (above : Key) : Key → Disk → Except Fault Unit × Disk
  | [], d => (.ok (), d)
  | step :: steps, d =>
    let here := above ++ [step]
    match d.get? here with
    | some .dir => makeDirs here steps d
    | some (.file _) => (.error (.os (if steps = [] then .exist else .notDir)), d)
    | none => match b.refusal .make here with
      | some fault => (.error fault, d)
      | none => makeDirs here steps (d.put here .dir)

/-- Tells whether a path is a directory. -/
def isDir (d : Disk) (p : Path) : Except Fault Bool :=
  match d.get? p.components with
  | some .dir => .ok true
  | some (.file _) => .ok false
  | none => .error (.os .noEntry)

/-- Opens what is there. -/
def openInput (d : Disk) (p : Path) : Except Fault Key := do
  b.permit .read p
  match d.get? p.components with
  | some _ => .ok p.components
  | none => .error (.os .noEntry)

/-- Reads a file. -/
def read (d : Disk) (p : Path) : Except Fault Bytes := do
  b.permit .read p
  match d.get? p.components with
  | some (.file data) => .ok data
  | some .dir => .error (.os .isDir)
  | none => .error (.os .noEntry)

/-- Makes sure that a file can be created, or emptied if it is there. -/
def mayCreate (d : Disk) (p : Path) : Except Fault Unit := do
  b.permit .create p
  match d.get? p.components.dropLast, d.get? p.components with
  | some .dir, some .dir => .error (.os .isDir)
  | some .dir, _ => .ok ()
  | some (.file _), _ => .error (.os .notDir)
  | none, _ => .error (.os .noEntry)

/-- The bench as a platform for programs. An open file is known by its key. -/
def platform : Platform Disk Key where
  isDir p := fun d => (isDir d p, d)
  openInput p := fun d => (b.openInput d p, d)
  create p := fun d => match b.mayCreate d p with
    | .ok () => (.ok p.components, d.put p.components (.file []))
    | .error fault => (.error fault, d)
  start command input output := fun d =>
    let (bs, status) := b.program command (d.content input)
    (.ok status, d.write output bs)
  note _ := pure ()

/-- What a run gets on the bench, besides a console. -/
def surroundings : Surroundings Disk where
  list p := fun d => (b.list d p, d)
  makeDir p := b.makeDirs [] p.components
  launch := b.platform.run
  read := b.read
  tool command expected actual := fun d => (b.tool command expected actual d, d)

/-- A run on the bench. -/
def run (config : Config) (d : Disk) (c : Console) :
    Except RunError (List CaseResult) × Disk × Console :=
  b.surroundings.run config d c

/-- The diff program says whether two files are the same: it exits with zero only if they are, and with
one only if they are not. -/
def Faithful (command : Command) : Prop :=
  ∀ (d : Disk) (expected actual : Path) (e a : Bytes) (run : Differ.ToolRun),
    d.get? expected.components = some (.file e) → d.get? actual.components = some (.file a) →
    b.tool command expected actual d = .ok run →
    (run.status.exitCode? = some 0 → e = a) ∧ (run.status.exitCode? = some 1 → e ≠ a)

variable {b} {d : Disk} {p : Path} {data : Bytes}

/-- What comes after a permission comes about only with it. -/
theorem permit_bind_eq_ok_iff {α : Type} {access : Access} {f : Unit → Except Fault α} {a : α} :
    (b.permit access p >>= f) = .ok a ↔
      b.refusal access p.components = none ∧ f () = .ok a := by
  rcases hrefusal : b.refusal access p.components with _ | fault <;>
    simp [permit, hrefusal, bind, Except.bind]

theorem list_eq_ok_iff {entries : List (Except Fault Name)} : b.list d p = .ok entries ↔
    b.refusal .list p.components = none ∧ d.get? p.components = some .dir ∧
      entries = (d.names p.components).map .ok := by
  rw [list, permit_bind_eq_ok_iff]
  rcases hget : d.get? p.components with _ | _ | _ <;> simp [eq_comm]

theorem openInput_eq_ok_iff {k : Key} : b.openInput d p = .ok k ↔
    b.refusal .read p.components = none ∧ (d.get? p.components).isSome ∧ k = p.components := by
  rw [openInput, permit_bind_eq_ok_iff]
  rcases hget : d.get? p.components with _ | _ <;> simp [eq_comm]

theorem read_eq_ok_iff : b.read d p = .ok data ↔
    b.refusal .read p.components = none ∧ d.get? p.components = some (.file data) := by
  rw [read, permit_bind_eq_ok_iff]
  rcases hget : d.get? p.components with _ | _ | _ <;> simp

theorem mayCreate_eq_ok_iff : b.mayCreate d p = .ok () ↔
    b.refusal .create p.components = none ∧ d.get? p.components.dropLast = some .dir ∧
      d.get? p.components ≠ some .dir := by
  rw [mayCreate, permit_bind_eq_ok_iff]
  rcases habove : d.get? p.components.dropLast with _ | _ | _ <;>
    rcases hget : d.get? p.components with _ | _ | _ <;> simp

/-- **A program leaves its output and nothing else**, if it gets its input and its output and the two
are not one file. -/
theorem launch_eq (command : Command) {stdin stdout : Path} (hread : b.read d stdin = .ok data)
    (hcreate : b.mayCreate d stdout = .ok ()) (hne : stdin.components ≠ stdout.components) :
    b.platform.run command stdin stdout d = (.ofWait (b.program command data).2,
      d.put stdout.components (.file (b.program command data).1)) := by
  obtain ⟨hpermit, hfile⟩ := read_eq_ok_iff.mp hread
  have hisDir : isDir d stdin = .ok false := by rw [isDir, hfile]
  have hopen : b.openInput d stdin = .ok stdin.components :=
    openInput_eq_ok_iff.mpr ⟨hpermit, by rw [hfile]; rfl, rfl⟩
  -- the output is empty by the time the program reads its input, which is still there
  have hcontent : (d.put stdout.components (.file [])).content stdin.components = data :=
    Disk.content_of_get? _ _ ((Disk.get?_put_of_ne _ _ _ hne).trans hfile)
  simp [Platform.run, Platform.openFile, platform, bind, StateT.bind, pure, StateT.pure, hisDir, hopen,
    hcreate, hcontent, Disk.write_put_empty]

end Bench

end Tandem
