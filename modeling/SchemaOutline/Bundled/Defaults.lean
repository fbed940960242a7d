import SchemaOutline.Json.Basic

/-!
# Defaults of a local network

The definitions of the bundled schema that describe what a local network falls back on.
-/

namespace SchemaOutline.Bundled

/-- How much the Bitcoin adapter logs. -/
def bitcoinAdapterLogLevel : Json :=
  .object [
    ("title", .text "Bitcoin Adapter Log Level"),
    ("description", .text "Represents the log level of the bitcoin adapter."),
    ("type", .text "string"),
    ("enum", .texts ["critical", "error", "warning", "info", "debug", "trace"])]

/-- The defaults of a local network. -/
def configDefaults : Json :=
  .object [
    ("title", .text "Defaults"),
    ("description", .text (
      "Default settings for the Bitcoin adapter, build process, canister HTTP adapter, " ++
      "and replica.")),
    ("type", .text "object"),
    ("properties", .object [
      ("bitcoin", .object [
        ("anyOf", .list [
          .object [("$ref", .text "#/definitions/ConfigDefaultsBitcoin")],
          .object [("type", .text "null")]])]),
      ("build", .object [
        ("anyOf", .list [
          .object [("$ref", .text "#/definitions/ConfigDefaultsBuild")],
          .object [("type", .text "null")]])]),
      ("canister_http", .object [
        ("anyOf", .list [
          .object [("$ref", .text "#/definitions/ConfigDefaultsCanisterHttp")],
          .object [("type", .text "null")]])]),
      ("replica", .object [
        ("anyOf", .list [
          .object [("$ref", .text "#/definitions/ConfigDefaultsReplica")],
          .object [("type", .text "null")]])])])]

/-- The defaults of the Bitcoin adapter. -/
def configDefaultsBitcoin : Json :=
  .object [
    ("title", .text "Bitcoin Adapter Configuration"),
    ("type", .text "object"),
    ("properties", .object [
      ("canister_init_arg", .object [
        ("title", .text "Initialization Argument"),
        ("description", .text "The initialization argument for the bitcoin canister."),
        ("default", .text (
          "(record \x7b stability_threshold = 0 : nat; network = variant \x7b regtest " ++
          "\x7d; blocks_source = principal \"aaaaa-aa\"; fees = record \x7b " ++
          "get_utxos_base = 0 : nat; get_utxos_cycles_per_ten_instructions = 0 : nat; " ++
          "get_utxos_maximum = 0 : nat; get_balance = 0 : nat; get_balance_maximum = 0 : " ++
          "nat; get_current_fee_percentiles = 0 : nat; " ++
          "get_current_fee_percentiles_maximum = 0 : nat;  send_transaction_base = 0 : " ++
          "nat; send_transaction_per_byte = 0 : nat; \x7d; syncing = variant \x7b " ++
          "enabled \x7d; api_access = variant \x7b enabled \x7d; " ++
          "disable_api_if_not_fully_synced = variant \x7b enabled \x7d\x7d)")),
        ("type", .text "string")]),
      ("enabled", .object [
        ("title", .text "Enable Bitcoin Adapter"),
        ("default", .bool false),
        ("type", .text "boolean")]),
      ("log_level", .object [
        ("title", .text "Logging Level"),
        ("description", .text "The logging level of the adapter."),
        ("default", .text "info"),
        ("allOf", .list [.object [("$ref", .text "#/definitions/BitcoinAdapterLogLevel")]])]),
      ("nodes", .object [
        ("title", .text "Available Nodes"),
        ("description", .text (
          "Addresses of nodes to connect to (in case discovery from seeds is not " ++
          "possible/sufficient).")),
        ("default", .null),
        ("type", .texts ["array", "null"]),
        ("items", .object [("type", .text "string")])])])]

/-- The defaults of a build. -/
def configDefaultsBuild : Json :=
  .object [
    ("title", .text "Build Process Configuration"),
    ("type", .text "object"),
    ("properties", .object [
      ("args", .object [
        ("description", .text "Arguments for packtool."),
        ("type", .texts ["string", "null"])]),
      ("packtool", .object [
        ("description", .text (
          "Main command to run the packtool. This command is executed in the root of the " ++
          "project.")),
        ("type", .texts ["string", "null"])])])]

/-- The defaults of the HTTP adapter. -/
def configDefaultsCanisterHttp : Json :=
  .object [
    ("title", .text "HTTP Adapter Configuration"),
    ("type", .text "object"),
    ("properties", .object [
      ("enabled", .object [
        ("title", .text "Enable HTTP Adapter"),
        ("default", .bool true),
        ("type", .text "boolean")]),
      ("log_level", .object [
        ("title", .text "Logging Level"),
        ("description", .text "The logging level of the adapter."),
        ("default", .text "error"),
        ("allOf", .list [.object [("$ref", .text "#/definitions/HttpAdapterLogLevel")]])])])]

/-- The defaults of the replica. -/
def configDefaultsReplica : Json :=
  .object [
    ("title", .text "Local Replica Configuration"),
    ("type", .text "object"),
    ("properties", .object [
      ("log_level", .object [
        ("description", .text (
          "Run replica with the provided log level. Default is 'error'. Debug prints " ++
          "still get displayed")),
        ("anyOf", .list [
          .object [("$ref", .text "#/definitions/ReplicaLogLevel")],
          .object [("type", .text "null")]])]),
      ("port", .object [
        ("description", .text "Port the replica listens on."),
        ("type", .texts ["integer", "null"]),
        ("format", .text "uint16"),
        ("minimum", .float (.zero false))]),
      ("subnet_type", .object [
        ("description", .text (
          "Determines the subnet type the replica will run as. Affects things like " ++
          "cycles accounting, message size limits, cycle limits. Defaults to " ++
          "'application'.")),
        ("anyOf", .list [
          .object [("$ref", .text "#/definitions/ReplicaSubnetType")],
          .object [("type", .text "null")]])])])]

/-- How much the HTTP adapter logs. -/
def httpAdapterLogLevel : Json :=
  .object [
    ("title", .text "HTTP Adapter Log Level"),
    ("description", .text "Represents the log level of the HTTP adapter."),
    ("type", .text "string"),
    ("enum", .texts ["critical", "error", "warning", "info", "debug", "trace"])]

/-- How much the replica logs. -/
def replicaLogLevel : Json :=
  .object [
    ("type", .text "string"),
    ("enum", .texts ["critical", "error", "warning", "info", "debug", "trace"])]

/-- The kinds of subnet a replica may run. -/
def replicaSubnetType : Json :=
  .object [
    ("type", .text "string"),
    ("enum", .texts ["system", "application", "verifiedapplication"])]

end SchemaOutline.Bundled
