import SchemaOutline.Files.Tree
import SchemaOutline.Main
import SchemaOutline.Settings.Save
import SchemaOutline.Proofs.Outline.Counter
import SchemaOutline.Proofs.Outline.Height
import SchemaOutline.Proofs.Outline.Questions
import SchemaOutline.Proofs.Outline.Unfolding
import SchemaOutline.Proofs.Outline.Limit
import SchemaOutline.Proofs.Outline.Index
import SchemaOutline.Proofs.Outline.Variants
import SchemaOutline.Proofs.Schema.Parts
import SchemaOutline.Proofs.Outline.Reachable
import SchemaOutline.Proofs.Schema.Format
import SchemaOutline.Proofs.Schema.Keyword
import SchemaOutline.Proofs.Schema.RoundTrip
import SchemaOutline.Proofs.Outline.Rewording
import SchemaOutline.Proofs.Json.DistinctKeys
import SchemaOutline.Proofs.Outline.RoundTrip
import SchemaOutline.Proofs.Outline.Literals
import SchemaOutline.Proofs.Outline.Names
import SchemaOutline.Proofs.Settings.Override
import SchemaOutline.Proofs.Panel.Frame
import SchemaOutline.Proofs.Panel.Files
import SchemaOutline.Proofs.Outline.ListsOfLists
import SchemaOutline.Proofs.Outline.InPlace
import SchemaOutline.Proofs.Outline.ElementShapes
import SchemaOutline.Proofs.Outline.InlineElements
import SchemaOutline.Proofs.Outline.OpenObjects
import SchemaOutline.Proofs.Outline.MapValues
import SchemaOutline.Proofs.Outline.VariantFields
import SchemaOutline.Proofs.Outline.Owners
import SchemaOutline.Proofs.Settings.RoundTrip
import SchemaOutline.Proofs.Settings.Variables
import SchemaOutline.Proofs.CommandLine.Properties
