import SchemaOutline.Json.Basic

/-!
# Networks and profiles

The definitions of the bundled schema that describe networks and build profiles.
-/

namespace SchemaOutline.Bundled

/-- A network on this machine. -/
def configLocalProvider : Json :=
  .object [
    ("title", .text "Local Replica Configuration"),
    ("type", .text "object"),
    ("properties", .object [
      ("bind", .object [
        ("description", .text (
          "Bind address for the webserver. For the shared local network, the default is " ++
          "127.0.0.1:4943. For project-specific local networks, the default is " ++
          "127.0.0.1:8000.")),
        ("type", .texts ["string", "null"])]),
      ("type", .object [("$ref", .text "#/definitions/NetworkType")])])]

/-- A network: one with providers, or a local one. -/
def configNetwork : Json :=
  .object [
    ("anyOf", .list [
      .object [("$ref", .text "#/definitions/ConfigNetworkProvider")],
      .object [("$ref", .text "#/definitions/ConfigLocalProvider")]])]

/-- A network reached through providers. -/
def configNetworkProvider : Json :=
  .object [
    ("title", .text "Custom Network Configuration"),
    ("type", .text "object"),
    ("required", .texts ["providers"]),
    ("properties", .object [
      ("providers", .object [
        ("type", .text "array"),
        ("items", .object [("type", .text "string")])]),
      ("type", .object [("$ref", .text "#/definitions/NetworkType")])])]

/-- How long a network lasts. -/
def networkType : Json :=
  .object [
    ("title", .text "Network Type"),
    ("description", .text (
      "Type 'ephemeral' is used for networks that are regularly reset. Type 'persistent' " ++
      "is used for networks that last for a long time and where it is preferred that " ++
      "canister IDs get stored in source control.")),
    ("type", .text "string"),
    ("enum", .texts ["ephemeral", "persistent"])]

/-- The build profiles. -/
def profile : Json :=
  .object [("type", .text "string"), ("enum", .texts ["Debug", "Release"])]

end SchemaOutline.Bundled
