import CensusNode.Config.Node

/-!
The JSON schema of a node configuration. The defaults in it are the written forms of the default
configurations.
-/

namespace CensusNode.Schema

def textField (description : String) (default : Json) : Json :=
  .object [("description", .string description), ("default", default), ("type", .string "string")]

def sizeField (description : String) (default : Nat) : Json :=
  .object [("description", .string description), ("default", .nat default),
    ("type", .string "integer"), ("format", .string "uint"), ("minimum", .decimal "0.0")]

def sectionField (description name : String) (default : Json) : Json :=
  .object [("description", .string description), ("default", default),
    ("allOf", .array [.object [("$ref", .string ("#/definitions/" ++ name))]])]

def storage : Json :=
  .object [
    ("description", .string <|
      "Layout of the control store and the per-census stores under the data directory.\n\n" ++
      "# Validation Rules\n\n" ++
      "- `control_db_file` must be a non-empty single path component " ++
      "- `census_dir` must be a non-empty single path component\n\n" ++
      "# Example\n\n" ++
      "```no_run # use zkcensus_types::config::StorageConfig; " ++
      "let config = StorageConfig::builder() .census_dir(\"tenants\".to_string()) .build() " ++
      ".expect(\"valid storage config\"); ```"),
    ("type", .string "object"),
    ("properties", .object [
      ("census_dir", textField
        "Directory (under the data directory) holding one sub-directory per census."
        (.string StorageConfig.defaults.censusDirectory)),
      ("control_db_file", textField
        "File name of the control store holding the next census id."
        (.string StorageConfig.defaults.controlFile))])]

def ledger : Json :=
  .object [
    ("description", .string <|
      "SQLite vote ledger configuration.\n\n# Validation Rules\n\n" ++
      "- `file_name` must be non-empty - `default_page_size` must be >= 1 " ++
      "- `max_page_size` must be >= `default_page_size` and <= 100,000"),
    ("type", .string "object"),
    ("properties", .object [
      ("busy_timeout", textField "How long a writer waits on a locked database before failing."
        (LedgerConfig.durationFormat.write LedgerConfig.defaults.busyTimeout)),
      ("default_page_size", sizeField "Page size used when a caller passes a limit of 0."
        LedgerConfig.defaults.defaultPageSize),
      ("file_name", textField "SQLite file name under the data directory."
        (.string LedgerConfig.defaults.fileName)),
      ("max_page_size", sizeField "Largest page a caller may request."
        LedgerConfig.defaults.maxPageSize)])]

def node : Json :=
  .object [
    ("$schema", .string "http://json-schema.org/draft-07/schema#"),
    ("title", .string "NodeConfig"),
    ("description", .string "Main configuration for a census node."),
    ("type", .string "object"),
    ("required", .array [.string "data_dir"]),
    ("properties", .object [
      ("data_dir", .object [
        ("description", .string "Directory for persistent data storage."),
        ("type", .string "string")]),
      ("ledger", sectionField "Vote ledger configuration." "LedgerConfig"
        (LedgerConfig.format.write LedgerConfig.defaults)),
      ("storage", sectionField "Census storage layout." "StorageConfig"
        (StorageConfig.format.write StorageConfig.defaults))]),
    ("definitions", .object [("LedgerConfig", ledger), ("StorageConfig", storage)])]

end CensusNode.Schema
