import Tandem.Host.Shell.Session
import Tandem.Host.Tool.Cat
import Tandem.Host.Tool.Cmp
import Tandem.Host.Tool.Echo
import Tandem.Host.Tool.Head
import Tandem.Host.Tool.Printf
import Tandem.Host.Tool.Rm
import Tandem.Host.Tool.Sort
import Tandem.Host.Tool.Tr
import Tandem.Host.Tool.Wc

/-!
# Starting programs

Every program is one of the tools in the end. The shell among them starts programs itself, so how
deep they may start one another is limited.
-/

namespace Tandem.Host

namespace Launch

/-- How deep programs may start one another. -/
def deepest : Nat := 2000

/-- What a tool does with its arguments, given what starts programs for the shell. -/
def toolWith (start : Image → List Octets → Act Nat) : Tool → List Octets → Act Nat
  | .sh => Shell.Session.run (Shell.Eval.engine start Shell.Eval.deepest)
  | .cat => Tool.Cat.run
  | .cmp => Tool.Cmp.run
  | .echo => Tool.Echo.run
  | .falseTool => fun _ => return 1
  | .head => Tool.Head.run
  | .printf => Tool.Printf.run
  | .rm => Tool.Rm.run
  | .sort => Tool.Sort.run
  | .tr => Tool.Tr.run
  | .trueTool => fun _ => return 0
  | .wc => Tool.Wc.run

/-- Runs a program that may start others, so deep at most. Beyond that it is killed. -/
def programWithin : Nat → Image → List Octets → Act Nat
  | 0, _, _ => Act.halt (.signal Signal.kill)
  | n + 1, image, args =>
    let args := image.args.map Octets.ofBytes ++ args
    ReaderT.adapt ({ · with called := Octets.ofBytes image.called })
      (toolWith (programWithin n) image.tool args)

/-- Runs a program. -/
def program : Image → List Octets → Act Nat :=
  programWithin deepest

end Launch

end Tandem.Host
