import SchemaOutline.Bundled.Canister
import SchemaOutline.Bundled.Defaults
import SchemaOutline.Bundled.Network

/-!
# The bundled schema

The schema of `dfx.json`, used where no other schema is given.

* `Bundled.json` — the whole document.
-/

namespace SchemaOutline.Bundled

/-- The top-level properties of a project file. -/
def properties : Json :=
  .object [
    ("canisters", .object [
      ("description", .text "Mapping between canisters and their settings."),
      ("type", .texts ["object", "null"]),
      ("additionalProperties", .object [
        ("$ref", .text "#/definitions/ConfigCanistersCanister")])]),
    ("defaults", .object [
      ("description", .text "Defaults for dfx start."),
      ("anyOf", .list [
        .object [("$ref", .text "#/definitions/ConfigDefaults")],
        .object [("type", .text "null")]])]),
    ("dfx", .object [
      ("title", .text "dfx version"),
      ("description", .text "Pins the dfx version for this project."),
      ("type", .texts ["string", "null"])]),
    ("networks", .object [
      ("description", .text "Mapping between network names and their configurations."),
      ("type", .texts ["object", "null"]),
      ("additionalProperties", .object [("$ref", .text "#/definitions/ConfigNetwork")])]),
    ("output_env_file", .object [
      ("description", .text (
        "If set, environment variables will be output to this file (without overwriting " ++
        "any user-defined variables, if the file already exists).")),
      ("type", .texts ["string", "null"])]),
    ("profile", .object [
      ("anyOf", .list [
        .object [("$ref", .text "#/definitions/Profile")],
        .object [("type", .text "null")]])]),
    ("version", .object [
      ("description", .text "Used to keep track of dfx.json versions."),
      ("type", .texts ["integer", "null"]),
      ("format", .text "uint32"),
      ("minimum", .float (.zero false))])]

/-- The named definitions. -/
def definitions : Json :=
  .object [
    ("BitcoinAdapterLogLevel", bitcoinAdapterLogLevel),
    ("CanisterDeclarationsConfig", canisterDeclarationsConfig),
    ("CanisterLogVisibility", canisterLogVisibility),
    ("CanisterLogVisibilityViewers", canisterLogVisibilityViewers),
    ("CanisterMetadataSection", canisterMetadataSection),
    ("CanisterTypeProperties", canisterTypeProperties),
    ("ConfigCanistersCanister", configCanistersCanister),
    ("ConfigCanistersCanisterRemote", configCanistersCanisterRemote),
    ("ConfigDefaults", configDefaults),
    ("ConfigDefaultsBitcoin", configDefaultsBitcoin),
    ("ConfigDefaultsBuild", configDefaultsBuild),
    ("ConfigDefaultsCanisterHttp", configDefaultsCanisterHttp),
    ("ConfigDefaultsReplica", configDefaultsReplica),
    ("ConfigLocalProvider", configLocalProvider),
    ("ConfigNetwork", configNetwork),
    ("ConfigNetworkProvider", configNetworkProvider),
    ("HttpAdapterLogLevel", httpAdapterLogLevel),
    ("InitializationValues", initializationValues),
    ("MetadataVisibility", metadataVisibility),
    ("NetworkType", networkType),
    ("Profile", profile),
    ("Pullable", pullable),
    ("ReplicaLogLevel", replicaLogLevel),
    ("ReplicaSubnetType", replicaSubnetType),
    ("SerdeVec_for_String", oneOrManyTexts)]

/-- **The bundled schema.** -/
def json : Json :=
  .object [
    ("$schema", .text "http://json-schema.org/draft-07/schema#"),
    ("title", .text "dfx.json"),
    ("type", .text "object"),
    ("properties", properties),
    ("definitions", definitions)]

end SchemaOutline.Bundled
