/-
The task book of the contract workspace: the release build, and the schema tasks
that make TypeScript types out of JSON schemas.

Every generator command starts by going up one directory, so the tasks are meant
to start in the scripts directory, right below the root of the workspace; the
relative paths in them are kept as they are. Some generator tasks are disabled.
They stay in the book for reference, and say so in their description.
-/
import Taskbook.Generator.Target

set_option autoImplicit false

namespace Taskbook.Workspace

/-- What a disabled generator task says about itself. -/
def disabledNote : String := "Disabled; kept for reference, not generated."

/-- A generator task, tagged as such (`json2ts`). -/
def generated (name text : String) (enabled : Bool := true) : Declaration :=
  .command
    { name := name
      enabled := enabled
      description := if enabled then none else some disabledNote
      tags := [Target.tool] }
    text

/-- The generator command that goes up, reads the schemas of a contract and writes
below the types directory. -/
def generate (schemas types : String) : String :=
  "cd .. && json2ts -i contracts/" ++ schemas ++ " -o ../liquid-staking-scripts/types/" ++ types

/-- A command that calls `tool`. -/
def script (name tool arguments : String) : Declaration :=
  .command { name := name, tags := [tool] } (tool ++ " " ++ arguments)

/-- The schema tasks. -/
def schemaTasks : List Declaration := [
  script "transform" "ts-node" "transform.ts",
  script "create" "bash" "build_schema.sh",
  generated "hub" (generate "dao-lst/**/*.json" "dao-lst/hub"),
  generated "alliance" (generate "alliance-hub-lst/**/*.json" "alliance-hub-lst"),
  generated "ampz" (generate "ampz/schema/*.json" "ampz") false,
  generated "arb" (generate "arb-vault/schema/*.json" "tokenfactory/arb-vault"),
  generated "proxies" (generate "proxies/**/*.json" "proxies"),
  generated "token" (generate "token/**/*.json" "token") false,
  generated "ampextractor" (generate "amp-extractor/**/*.json" "amp-extractor") false,
  generated "votingescrow"
    (generate "amp-governance/voting_escrow/**/*.json" "tokenfactory/voting_escrow"),
  generated "ampgauges" (generate "amp-governance/amp_gauges/**/*.json" "amp_gauges") false,
  generated "empgauges" (generate "amp-governance/emp_gauges/**/*.json" "emp_gauges") false,
  generated "propgauges" (generate "amp-governance/prop_gauges/**/*.json" "prop_gauges") false,
  generated "farm"
    (generate "amp-compounder/astroport_farm/**/*.json"
      "tokenfactory/amp-compounder/astroport_farm"),
  generated "compound"
    (generate "amp-compounder/compound_proxy/**/*.json" "amp-compounder/compound_proxy") false,
  generated "fees"
    (generate "amp-compounder/fees_collector/**/*.json" "amp-compounder/fees_collector") false,
  generated "generator"
    (generate "amp-compounder/generator_proxy/**/*.json"
      "tokenfactory/amp-compounder/generator_proxy")]

/-- The declarations of the workspace. Calling `schema` makes the schemas and the
types of the hub; the other types are made one by one when they are needed. -/
def declarations : List Declaration := [
  script "release" "bash" "build_release.sh",
  .group "schema" schemaTasks (some ["create", "transform", "hub"]) none []]

/-- The declarations are well formed. -/
theorem declarations_ok : (Book.ofDeclarations declarations).isOk = true := by
  decide +kernel

/-- The task book of the workspace (`get_scripts`). -/
def book : Book :=
  match h : Book.ofDeclarations declarations with
  | .ok book => book
  | .error _ => absurd declarations_ok (by simp [h, Except.isOk, Except.toBool])

end Taskbook.Workspace
