import ContingentClaims.Menu.SelfCheck

/-!
# The standard catalogs

One catalog for each type of node that is chosen from a menu: claims,
observations and inequalities. The entries get fresh identifiers in the order in
which they are written down here, the entries of a category before the category,
and the catalogs are checked once when they are built.
-/

namespace ContingentClaims
namespace Catalog

/-- The menu for claims: the constructors, fragments of contracts, and whole payoffs. -/
def claims : Fresh Catalog := do
  let primitives := [
    <- MenuEntry.terminal "Zero" Template.zero,
    <- MenuEntry.terminal "One" Template.one,
    <- MenuEntry.terminal "Give" Template.give,
    <- MenuEntry.terminal "And" Template.and,
    <- MenuEntry.terminal "Or" Template.or,
    <- MenuEntry.terminal "Cond" Template.cond,
    <- MenuEntry.terminal "Scale" Template.scale,
    <- MenuEntry.terminal "When" Template.whenHolds,
    <- MenuEntry.terminal "Until" Template.untilHolds,
    <- MenuEntry.terminal "Anytime" Template.anytime]
  let exercise := [
    <- MenuEntry.terminal "European" Template.european,
    <- MenuEntry.terminal "American" Template.american,
    <- MenuEntry.terminal "Perpetual" Template.perpetual]
  let election := [
    <- MenuEntry.terminal "AutoCall" Template.autoCall,
    <- MenuEntry.terminal "AutoPut" Template.autoPut,
    <- MenuEntry.terminal "Elected" Template.elected]
  let cash := [
    <- MenuEntry.terminal "Call" Template.cashCall,
    <- MenuEntry.terminal "Put" Template.cashPut,
    <- MenuEntry.terminal "Generic" Template.cashGeneric]
  let settlement := [
    <- MenuEntry.terminal "Physical" Template.physical,
    <- MenuEntry.category "Cash" cash]
  let fragments := [
    <- MenuEntry.category "Exercise" exercise,
    <- MenuEntry.category "Election" election,
    <- MenuEntry.category "Settlement" settlement]
  let payoffs := [
    <- MenuEntry.terminal "AutoCallCash" Template.autoCallCash,
    <- MenuEntry.terminal "AutoPutCash" Template.autoPutCash,
    <- MenuEntry.terminal "ElectedPhysical" Template.electedPhysical]
  let entries := [
    <- MenuEntry.category "Primitives" primitives,
    <- MenuEntry.category "Fragments" fragments,
    <- MenuEntry.category "Payoffs" payoffs]
  return { type := .claim, entries }

/-- The menu for observations: the constructors and the difference. -/
def observations : Fresh Catalog := do
  let entries := [
    <- MenuEntry.terminal "Const" Template.const,
    <- MenuEntry.terminal "Observe" Template.observe,
    <- MenuEntry.terminal "Add" Template.add,
    <- MenuEntry.terminal "Sub" Template.sub,
    <- MenuEntry.terminal "Neg" Template.neg,
    <- MenuEntry.terminal "Mul" Template.mul,
    <- MenuEntry.terminal "Div" Template.div]
  return { type := .observation, entries }

/-- The menu for inequalities. -/
def inequalities : Fresh Catalog := do
  let entries := [
    <- MenuEntry.terminal "TimeGte" Template.timeGte,
    <- MenuEntry.terminal "Lte" Template.lte]
  return { type := .inequality, entries }

end Catalog

/-- The catalogs of the three types of nodes that are chosen from a menu. -/
structure Catalogs where
  claims : Catalog
  observations : Catalog
  inequalities : Catalog

namespace Catalogs

/-- The catalog for a type of node; value nodes take typed input instead. -/
def forType? (catalogs : Catalogs) : NodeType -> Option Catalog
  | .claim => some catalogs.claims
  | .observation => some catalogs.observations
  | .inequality => some catalogs.inequalities
  | .value => none

/-- Check catalogs in order until one breaks a rule. -/
def selfCheckAll : List Catalog -> Fresh (Except CatalogError Unit)
  | [] => return .ok ()
  | catalog :: rest => do
      match <- catalog.selfCheck with
      | .error error => return .error error
      | .ok () => selfCheckAll rest

/-- Build the standard catalogs and check them. -/
def standard : Fresh (Except CatalogError Catalogs) := do
  let claims <- Catalog.claims
  let observations <- Catalog.observations
  let inequalities <- Catalog.inequalities
  match <- selfCheckAll [claims, observations, inequalities] with
  | .error error => return .error error
  | .ok () => return .ok { claims, observations, inequalities }

end Catalogs
end ContingentClaims
