import Tandem.Host.Shell.Condition

/-!
# Facts about files

What conditions can find out about files. The user may read and write everything, and run what is
marked to be run.
-/

namespace Tandem.Host.Shell.Condition

/-- What a path leads to, through a link at its end or not. -/
def nodeAt (s : State) (purpose : Store.Purpose) (path : Octets) : Option (Place × Node) :=
  match s.system.store.locate s.place purpose ⟨Octets.toBytes path⟩ with
  | .ok (.node place node) => some (place, node)
  | _ => none

/-- The answer to a letter about something that is there. -/
def about (s : State) (letter : Char) (node : Node) : Bool :=
  match letter, node with
  | 'f', .file .. | 'f', .tool _ => true
  | 'd', .dir => true
  | 'c', .device _ => true
  | 's', .file id _ => 0 < (s.system.store.data id).size
  | 's', .dir | 's', .tool _ => true
  | 'x', .file _ executable => executable
  | 'x', .dir | 'x', .tool _ => true
  | 'e', _ | 'r', _ | 'w', _ | 'O', _ | 'G', _ => true
  | 'L', .link _ | 'h', .link _ => true
  | _, _ => false

/-- What a shell knows about files. -/
def facts (s : State) : Facts :=
  { file := fun letter path =>
      let purpose := if letter == 'L' || letter == 'h' then .keep else .follow
      (nodeAt s purpose path).any fun (_, node) => about s letter node
    files := fun name a b =>
      match name, nodeAt s .follow a, nodeAt s .follow b with
      | "-ef", some (p, _), some (q, _) => p = q
      | _, _, _ => false }

/-- Finds out whether a condition holds; the arguments of `[` end with `]`. -/
def test (bracket : Bool) (args : List Octets) : Sh Nat := do
  let args ← if bracket then
      if args.getLast? == some [']'] then pure args.dropLast
      else Sh.fail (Octets.ofString "missing ]")
    else pure args
  match evaluate (facts (← get)) args with
  | .ok b => return if b then 0 else 1
  | .error text => Sh.fail text

end Tandem.Host.Shell.Condition
