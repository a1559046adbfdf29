import Formulas.Standard

/-! Hosts that change. Several of them live side by side, and a copy goes its own way. -/
namespace Formulas

namespace Host

inductive Change where
  | declareFunction (name : String) (f : Function)
  | removeFunction (name : String)
  | declareProperty (name : String) (p : Property)
  | removeProperty (name : String)
  | declareStandard

/-- The host after a change. Only a name that is taken stands in the way of one. -/
def change (host : Host) : Change → Except HostError Host
  | .declareFunction name f => host.declareFunction name f
  | .removeFunction name => .ok (host.removeFunction name).2
  | .declareProperty name p => host.declareProperty name p
  | .removeProperty name => .ok (host.removeProperty name).2
  | .declareStandard => host.declareStandard

end Host

namespace Hosts

/-- Hosts are known by their places in the order of their creation. -/
inductive Step where
  | create (standard : Bool)
  | copy (source : Nat)
  | change (target : Nat) (c : Host.Change)

/-- The hosts after a step. At a place without a host nothing happens. -/
def step (hosts : List Host) : Step → Except HostError (List Host)
  | .create standard => .ok (hosts ++ [if standard then .standard else .empty])
  | .copy source => .ok (hosts ++ hosts[source]?.toList)
  | .change target c =>
    match hosts[target]? with
    | some host => (host.change c).map (hosts.set target)
    | none => .ok hosts

end Hosts
end Formulas
