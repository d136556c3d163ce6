import ChannelRules.Check.State

/-!
# The channel of an invocation

An invocation names a channel of the builtin device, a keyword of a compute module or a channel of
a kind of device. A keyword is a channel with one parameter.
-/

namespace ChannelRules

/-- The kind of a selector and the parameter types of one of its channels. -/
def channelTypes (ctx : Context) (selector : Selector) (name : String) (sort : Section) :
    Except CheckError (String × List Ty) :=
  match selector with
  | .any => .error (.unresolvableSelector .any)
  | .builtin =>
    match BuiltinChannel.find? sort name with
    | some channel => .ok (Selector.builtinKind, channel.types)
    | none => .error (.schema (.unknownChannel Selector.builtinKind sort name))
  | .computeModule module =>
    match Named.get? ctx.keywords (moduleCell module name) with
    | some ty => .ok (module, [ty])
    | none => .error (.schema (.unknownChannel module sort name))
  | other =>
    match other.kind? with
    | none => .error (.unresolvableSelector other)
    | some kind =>
      match Named.get? ctx.kinds kind with
      | none => .error (.schema (.unknownKind kind))
      | some schemas =>
        match schemas.channel kind sort name with
        | .ok channel => .ok (kind, channel.types)
        | .error e => .error (.schema e)

/-- The channel of an invocation, with the types of its parameters. -/
def resolveChannel (ctx : Context) (invocation : Source.Invocation) (sort : Section) :
    Except CheckError (ChannelRef × List Ty) := do
  let (kind, types) ← channelTypes ctx invocation.selector invocation.channel sort
  return (⟨invocation.selector, kind, invocation.channel, sort⟩, types)

end ChannelRules
