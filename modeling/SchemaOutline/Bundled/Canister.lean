import SchemaOutline.Json.Basic

/-!
# Canisters

The definitions of the bundled schema that describe canisters: their kinds, their settings and
what is generated for them.
-/

namespace SchemaOutline.Bundled

/-- What bindings are generated for a canister, and where. -/
def canisterDeclarationsConfig : Json :=
  .object [
    ("title", .text "Declarations Configuration"),
    ("description", .text (
      "Configurations about which canister interface declarations to generate, and where " ++
      "to generate them.")),
    ("type", .text "object"),
    ("properties", .object [
      ("bindings", .object [
        ("title", .text "Languages to generate"),
        ("description", .text (
          "A list of languages to generate type declarations. Supported options are " ++
          "'js', 'ts', 'did', 'mo'. Default is ['js', 'ts', 'did'].")),
        ("type", .texts ["array", "null"]),
        ("items", .object [("type", .text "string")])]),
      ("env_override", .object [
        ("title", .text "Canister ID ENV Override"),
        ("description", .text (
          "A string that will replace " ++
          "process.env.CANISTER_ID_\x7bcanister_name_uppercase\x7d in the " ++
          "'src/dfx/assets/language_bindings/canister.js' template.")),
        ("type", .texts ["string", "null"])]),
      ("node_compatibility", .object [
        ("title", .text "Node compatibility flag"),
        ("description", .text (
          "Flag to pre-populate generated declarations with better defaults for various " ++
          "types of projects Default is false")),
        ("default", .bool false),
        ("type", .text "boolean")]),
      ("output", .object [
        ("title", .text "Declaration Output Directory"),
        ("description", .text (
          "Directory to place declarations for that canister. Default is " ++
          "'src/declarations/<canister_name>'.")),
        ("type", .texts ["string", "null"])])])]

/-- Who may read the logs of a canister. -/
def canisterLogVisibility : Json :=
  .object [
    ("anyOf", .list [
      .object [("$ref", .text "#/definitions/CanisterLogVisibilityViewers")],
      .object [("type", .text "string")]]),
    ("oneOf", .list [
      .object [("type", .text "string"), ("enum", .texts ["controllers"])],
      .object [("type", .text "string"), ("enum", .texts ["public"])],
      .object [
        ("type", .text "object"),
        ("required", .texts ["type", "allowed_viewers"]),
        ("properties", .object [
          ("type", .object [("type", .text "string"), ("enum", .texts ["allowed_viewers"])]),
          ("allowed_viewers", .object [
            ("type", .text "array"),
            ("items", .object [("type", .text "string")])])])]])]

/-- A list of those who may read the logs. -/
def canisterLogVisibilityViewers : Json :=
  .object [
    ("type", .text "object"),
    ("properties", .object [
      ("allowed_viewers", .object [
        ("type", .text "array"),
        ("items", .object [("type", .text "string")])])])]

/-- A custom section of a canister. -/
def canisterMetadataSection : Json :=
  .object [
    ("title", .text "Canister Metadata Configuration"),
    ("description", .text (
      "Configures a custom metadata section for the canister wasm. dfx uses the first " ++
      "definition of a given name matching the current network, ignoring any of the same " ++
      "name that follow.")),
    ("type", .text "object"),
    ("required", .texts ["name"]),
    ("properties", .object [
      ("content", .object [
        ("title", .text "Content"),
        ("description", .text "Content of this metadata section. Conflicts with `path`."),
        ("type", .texts ["string", "null"])]),
      ("name", .object [
        ("title", .text "Name"),
        ("description", .text "The name of the wasm section"),
        ("type", .text "string")]),
      ("networks", .object [
        ("title", .text "Networks"),
        ("description", .text (
          "Networks this section applies to. If this field is absent, then it applies to " ++
          "all networks. An empty array means this element will not apply to any network.")),
        ("type", .texts ["array", "null"]),
        ("items", .object [("type", .text "string")]),
        ("uniqueItems", .bool true)]),
      ("path", .object [
        ("title", .text "Path"),
        ("description", .text (
          "Path to file containing section contents. Conflicts with `content`. For " ++
          "sections with name=`candid:service`, this field is optional, and if not " ++
          "specified, dfx will use the canister's candid definition.")),
        ("type", .texts ["string", "null"])]),
      ("visibility", .object [
        ("title", .text "Visibility"),
        ("default", .text "public"),
        ("allOf", .list [.object [("$ref", .text "#/definitions/MetadataVisibility")]])])])]

/-- The kinds of canister, told apart by the property `type`. -/
def canisterTypeProperties : Json :=
  .object [
    ("anyOf", .list [.object [("type", .text "object")]]),
    ("oneOf", .list [
      .object [
        ("title", .text "Rust-Specific Properties"),
        ("type", .text "object"),
        ("required", .texts ["candid", "package", "type"]),
        ("properties", .object [
          ("type", .object [("type", .text "string"), ("enum", .texts ["rust"])]),
          ("candid", .object [
            ("title", .text "Candid File"),
            ("description", .text "Path of this canister's candid interface declaration."),
            ("type", .text "string")]),
          ("crate", .object [
            ("title", .text "Crate name"),
            ("description", .text (
              "Name of the Rust crate that compiles to this canister's Wasm. If left " ++
              "unspecified, defaults to the crate with the same name as the package.")),
            ("type", .texts ["string", "null"])]),
          ("package", .object [
            ("title", .text "Package Name"),
            ("description", .text (
              "Name of the Rust package that compiles this canister's Wasm.")),
            ("type", .text "string")])])],
      .object [
        ("title", .text "Asset-Specific Properties"),
        ("type", .text "object"),
        ("required", .texts ["source", "type"]),
        ("properties", .object [
          ("type", .object [("type", .text "string"), ("enum", .texts ["assets"])]),
          ("build", .object [
            ("title", .text "Build Commands"),
            ("description", .text (
              "Commands that are executed in order to produce this canister's assets. " ++
              "Expected to produce assets in one of the paths specified by the 'source' " ++
              "field. Optional if there is no build necessary or the assets can be built " ++
              "using the default `npm run build` command.")),
            ("default", .list []),
            ("allOf", .list [.object [("$ref", .text "#/definitions/SerdeVec_for_String")]])]),
          ("source", .object [
            ("title", .text "Asset Source Folder"),
            ("description", .text "Folders from which assets are uploaded."),
            ("type", .text "array"),
            ("items", .object [("type", .text "string")])]),
          ("workspace", .object [
            ("title", .text "NPM workspace"),
            ("description", .text (
              "The workspace in package.json that this canister is in, if it is not in " ++
              "the root workspace.")),
            ("type", .texts ["string", "null"])])])],
      .object [
        ("title", .text "Custom-Specific Properties"),
        ("type", .text "object"),
        ("required", .texts ["type"]),
        ("properties", .object [
          ("type", .object [("type", .text "string"), ("enum", .texts ["custom"])]),
          ("build", .object [
            ("title", .text "Build Commands"),
            ("description", .text (
              "Commands that are executed in order to produce this canister's Wasm " ++
              "module. Expected to produce the Wasm in the path specified by the 'wasm' " ++
              "field. No build commands are allowed if the `wasm` field is a URL.")),
            ("default", .list []),
            ("allOf", .list [.object [("$ref", .text "#/definitions/SerdeVec_for_String")]])]),
          ("candid", .object [
            ("title", .text "Candid File"),
            ("description", .text (
              "Path to this canister's candid interface declaration.  A URL to a candid " ++
              "file is also acceptable.")),
            ("type", .text "string")]),
          ("wasm", .object [
            ("title", .text "Wasm Path"),
            ("description", .text (
              "Path to Wasm to be installed. URLs to a Wasm module are also acceptable. " ++
              "A canister that has a URL to a Wasm module can not also have `build` " ++
              "steps.")),
            ("type", .text "string")])])],
      .object [
        ("title", .text "Motoko-Specific Properties"),
        ("type", .text "object"),
        ("required", .texts ["type"]),
        ("properties", .object [
          ("type", .object [("type", .text "string"), ("enum", .texts ["motoko"])])])],
      .object [
        ("title", .text "Pull-Specific Properties"),
        ("type", .text "object"),
        ("required", .texts ["id", "type"]),
        ("properties", .object [
          ("type", .object [("type", .text "string"), ("enum", .texts ["pull"])]),
          ("id", .object [
            ("title", .text "Canister ID"),
            ("description", .text "Principal of the canister on the ic network."),
            ("type", .text "string")])])]])]

/-- A canister of a project. -/
def configCanistersCanister : Json :=
  .object [
    ("title", .text "Canister Configuration"),
    ("description", .text "Configurations for a single canister."),
    ("type", .text "object"),
    ("properties", .object [
      ("args", .object [
        ("title", .text "Canister-Specific Build Argument"),
        ("description", .text (
          "This field defines an additional argument to pass to the Motoko compiler when " ++
          "building the canister.")),
        ("type", .texts ["string", "null"])]),
      ("declarations", .object [
        ("title", .text "Declarations Configuration"),
        ("description", .text (
          "Defines which canister interface declarations to generate, and where to " ++
          "generate them.")),
        ("default", .object [
          ("bindings", .null),
          ("env_override", .null),
          ("node_compatibility", .bool false),
          ("output", .null)]),
        ("allOf", .list [.object [("$ref", .text "#/definitions/CanisterDeclarationsConfig")]])]),
      ("dependencies", .object [
        ("title", .text "Dependencies"),
        ("description", .text "Defines on which canisters this canister depends on."),
        ("default", .list []),
        ("type", .text "array"),
        ("items", .object [("type", .text "string")])]),
      ("gzip", .object [
        ("title", .text "Gzip Canister Wasm"),
        ("description", .text "Disabled by default."),
        ("type", .texts ["boolean", "null"])]),
      ("init_arg", .object [
        ("title", .text "Init Arg"),
        ("description", .text (
          "The Candid initialization argument for installing the canister. If the " ++
          "`--argument` or `--argument-file` argument is also provided, this `init_arg` " ++
          "field will be ignored.")),
        ("type", .texts ["string", "null"])]),
      ("initialization_values", .object [
        ("title", .text "Resource Allocation Settings"),
        ("description", .text "Defines initial values for resource allocation settings."),
        ("default", .object [
          ("compute_allocation", .null),
          ("freezing_threshold", .null),
          ("log_visibility", .null),
          ("memory_allocation", .null),
          ("reserved_cycles_limit", .null),
          ("wasm_memory_limit", .null)]),
        ("allOf", .list [.object [("$ref", .text "#/definitions/InitializationValues")]])]),
      ("main", .object [
        ("title", .text "Path to Canister Entry Point"),
        ("description", .text "Entry point for e.g. Motoko Compiler."),
        ("type", .texts ["string", "null"])]),
      ("metadata", .object [
        ("title", .text "Metadata"),
        ("description", .text "Defines metadata sections to set in the canister .wasm"),
        ("default", .list []),
        ("type", .text "array"),
        ("items", .object [("$ref", .text "#/definitions/CanisterMetadataSection")])]),
      ("post_install", .object [
        ("title", .text "Post-Install Commands"),
        ("description", .text (
          "One or more commands to run post canister installation. These commands are " ++
          "executed in the root of the project.")),
        ("default", .list []),
        ("allOf", .list [.object [("$ref", .text "#/definitions/SerdeVec_for_String")]])]),
      ("pullable", .object [
        ("title", .text "Pullable"),
        ("description", .text (
          "Defines required properties so that this canister is ready for `dfx deps " ++
          "pull` by other projects.")),
        ("anyOf", .list [
          .object [("$ref", .text "#/definitions/Pullable")],
          .object [("type", .text "null")]])]),
      ("remote", .object [
        ("title", .text "Remote Configuration"),
        ("description", .text "Used to mark the canister as 'remote' on certain networks."),
        ("anyOf", .list [
          .object [("$ref", .text "#/definitions/ConfigCanistersCanisterRemote")],
          .object [("type", .text "null")]])]),
      ("shrink", .object [
        ("title", .text "Shrink Canister Wasm"),
        ("description", .text (
          "Whether run `ic-wasm shrink` after building the Canister. Enabled by default " ++
          "for Rust/Motoko canisters. Disabled by default for custom canisters.")),
        ("type", .texts ["boolean", "null"])]),
      ("specified_id", .object [
        ("title", .text "Specified Canister ID"),
        ("description", .text "Attempts to create the canister with this Canister ID."),
        ("type", .texts ["string", "null"])]),
      ("type", .object [
        ("title", .text "Type"),
        ("description", .text "Type-specific properties for the canister."),
        ("allOf", .list [.object [("$ref", .text "#/definitions/CanisterTypeProperties")]])])]),
    ("oneOf", .list [
      .object [
        ("title", .text "Rust-Specific Properties"),
        ("type", .text "object"),
        ("required", .texts ["candid", "package", "type"]),
        ("properties", .object [
          ("type", .object [("type", .text "string"), ("enum", .texts ["rust"])]),
          ("candid", .object [("type", .text "string")]),
          ("crate", .object [("type", .texts ["string", "null"])]),
          ("package", .object [("type", .text "string")])])],
      .object [
        ("title", .text "Asset-Specific Properties"),
        ("type", .text "object"),
        ("required", .texts ["source", "type"]),
        ("properties", .object [
          ("type", .object [("type", .text "string"), ("enum", .texts ["assets"])]),
          ("build", .object [("$ref", .text "#/definitions/SerdeVec_for_String")]),
          ("source", .object [
            ("type", .text "array"),
            ("items", .object [("type", .text "string")])]),
          ("workspace", .object [("type", .texts ["string", "null"])])])],
      .object [
        ("title", .text "Custom-Specific Properties"),
        ("type", .text "object"),
        ("required", .texts ["type"]),
        ("properties", .object [
          ("type", .object [("type", .text "string"), ("enum", .texts ["custom"])]),
          ("build", .object [("$ref", .text "#/definitions/SerdeVec_for_String")]),
          ("candid", .object [("type", .text "string")]),
          ("wasm", .object [("type", .text "string")])])],
      .object [
        ("title", .text "Motoko-Specific Properties"),
        ("type", .text "object"),
        ("required", .texts ["type"]),
        ("properties", .object [
          ("type", .object [("type", .text "string"), ("enum", .texts ["motoko"])])])],
      .object [
        ("title", .text "Pull-Specific Properties"),
        ("type", .text "object"),
        ("required", .texts ["id", "type"]),
        ("properties", .object [
          ("type", .object [("type", .text "string"), ("enum", .texts ["pull"])]),
          ("id", .object [("type", .text "string")])])]])]

/-- Where a canister is on a network that others run. -/
def configCanistersCanisterRemote : Json :=
  .object [
    ("title", .text "Remote Canister Configuration"),
    ("description", .text (
      "This field allows canisters to be marked 'remote' for certain networks. On " ++
      "networks where this canister contains a remote ID, the canister is not deployed. " ++
      "Instead it is assumed to exist already under control of a different project.")),
    ("type", .text "object"),
    ("required", .texts ["id"]),
    ("properties", .object [
      ("candid", .object [
        ("title", .text "Remote Candid File"),
        ("description", .text (
          "On networks where this canister is marked 'remote', this candid file is used " ++
          "instead of the one declared in the canister settings.")),
        ("type", .texts ["string", "null"])]),
      ("id", .object [
        ("title", .text "Network to Remote ID Mapping"),
        ("description", .text (
          "This field contains mappings from network names to remote canister IDs " ++
          "(Principals). For all networks listed here, this canister is considered " ++
          "'remote'.")),
        ("type", .text "object"),
        ("additionalProperties", .object [("type", .text "string")])])])]

/-- The settings of a canister when it is created. -/
def initializationValues : Json :=
  .object [
    ("title", .text "Initial Resource Allocations"),
    ("type", .text "object"),
    ("properties", .object [
      ("compute_allocation", .object [
        ("title", .text "Compute Allocation"),
        ("description", .text (
          "Must be a number between 0 and 100, inclusively. It indicates how much " ++
          "compute power should be guaranteed to this canister, expressed as a " ++
          "percentage of the maximum compute power that a single canister can allocate.")),
        ("type", .texts ["integer", "null"])]),
      ("freezing_threshold", .object [
        ("title", .text "Freezing Threshold"),
        ("description", .text (
          "Freezing threshould of the canister, measured in seconds. Valid inputs are " ++
          "numbers (seconds) or strings parsable by humantime (e.g. \"15days 2min 2s\").")),
        ("type", .texts ["string", "null"])]),
      ("log_visibility", .object [
        ("title", .text "Log Visibility"),
        ("description", .text "Specifies who is allowed to read the canister's logs."),
        ("allOf", .list [.object [("$ref", .text "#/definitions/CanisterLogVisibility")]])]),
      ("memory_allocation", .object [
        ("title", .text "Memory Allocation"),
        ("description", .text (
          "Maximum memory (in bytes) this canister is allowed to occupy. Can be " ++
          "specified as an integer, or as an SI unit string (e.g. \"4KB\", \"2 MiB\")")),
        ("type", .texts ["integer", "string", "null"])]),
      ("reserved_cycles_limit", .object [
        ("title", .text "Reserved Cycles Limit"),
        ("description", .text (
          "Specifies the upper limit of the canister's reserved cycles balance.")),
        ("type", .texts ["integer", "null"]),
        ("format", .text "uint128"),
        ("minimum", .float (.zero false))]),
      ("wasm_memory_limit", .object [
        ("title", .text "Wasm Memory Limit"),
        ("description", .text (
          "Specifies a soft limit (in bytes) on the Wasm memory usage of the canister.")),
        ("type", .texts ["integer", "string", "null"])])])]

/-- Who may read a custom section. -/
def metadataVisibility : Json :=
  .object [("type", .text "string"), ("enum", .texts ["public", "private"])]

/-- What other projects need to use the canister. -/
def pullable : Json :=
  .object [
    ("type", .text "object"),
    ("required", .texts ["dependencies", "init_guide", "wasm_url"]),
    ("properties", .object [
      ("dependencies", .object [
        ("title", .text "dependencies"),
        ("description", .text "Canister IDs (Principal) of direct dependencies."),
        ("type", .text "array"),
        ("items", .object [("type", .text "string")])]),
      ("init_guide", .object [
        ("title", .text "init_guide"),
        ("description", .text "A message to guide consumers how to initialize the canister."),
        ("type", .text "string")]),
      ("wasm_hash", .object [
        ("title", .text "wasm_hash"),
        ("description", .text (
          "SHA256 hash of the wasm module located at wasm_url. Only define this if the " ++
          "on-chain canister wasm is expected not to match the wasm at wasm_url.")),
        ("type", .texts ["string", "null"])]),
      ("wasm_url", .object [
        ("title", .text "wasm_url"),
        ("description", .text "The Url to download canister wasm."),
        ("type", .text "string")])])]

/-- One text, or a list of texts. -/
def oneOrManyTexts : Json :=
  .object [
    ("anyOf", .list [
      .object [("type", .text "string")],
      .object [("type", .text "array"), ("items", .object [("type", .text "string")])]])]

end SchemaOutline.Bundled
