import ChannelRules.Env.Basic

/-!
# Environments that share a world

The environments of one engine share the keyword cells: what one of them writes, all of them read.
Everything else belongs to one environment alone.
-/

namespace ChannelRules

/-- Environments and the world that they share. -/
structure Session where
  world : World
  envs : List Env

namespace Session

def ofEnv (world : World) (env : Env) : Session := ⟨world, [env]⟩

def env? (session : Session) (index : Nat) : Option Env := session.envs[index]?

def add (session : Session) (env : Env) : Session :=
  { session with envs := session.envs ++ [env] }

/-- Replace an environment. -/
def put (session : Session) (index : Nat) (env : Env) : Session :=
  { session with envs := session.envs.set index env }

/-- The outcome of a computation, and the session after it. -/
def eval {α : Type} (session : Session) (x : Eval α) : Except RuntimeError α × Session :=
  let (outcome, world) := x.attempt session.world
  (outcome, { session with world := world })

end Session

end ChannelRules
