import Specimen.CommandLine.Arguments
import Specimen.CommandLine.Help
import Specimen.CommandLine.Log
import Specimen.CommandLine.Program
import Specimen.Config
import Specimen.Config.Schema
import Specimen.Constraint.Basic
import Specimen.Constraint.Keywords
import Specimen.Constraint.Merge
import Specimen.Constraint.Settle
import Specimen.Double.Basic
import Specimen.Double.Decimal
import Specimen.Generation
import Specimen.Hash.Sha256
import Specimen.Instance.Array
import Specimen.Instance.Number
import Specimen.Instance.Object
import Specimen.Instance.Run
import Specimen.Instance.Text
import Specimen.Instance.Value
import Specimen.Json.Basic
import Specimen.Json.Parser
import Specimen.Json.Printer
import Specimen.Json.Token
import Specimen.Kind
import Specimen.Letters
import Specimen.Main
import Specimen.NameSet
import Specimen.NameSet.Closure
import Specimen.NameTable
import Specimen.Names
import Specimen.Normalization
import Specimen.Numeral
import Specimen.Options
import Specimen.Pattern.CharSet
import Specimen.Pattern.Dialect
import Specimen.Pattern.Library
import Specimen.Pattern.Matcher
import Specimen.Pattern.Parser
import Specimen.Pattern.Regex
import Specimen.Pattern.Sampler
import Specimen.Pattern.Unicode
import Specimen.PlainText
import Specimen.Pointer
import Specimen.Proofs.Constraint.Annotation
import Specimen.Proofs.Constraint.Associativity
import Specimen.Proofs.Constraint.Children
import Specimen.Proofs.Constraint.CommonStep
import Specimen.Proofs.Constraint.Conjunction
import Specimen.Proofs.Constraint.Inference
import Specimen.Proofs.Constraint.IntegerBounds
import Specimen.Proofs.Constraint.NumberBounds
import Specimen.Proofs.Constraint.Reading
import Specimen.Proofs.Constraint.Settled
import Specimen.Proofs.Constraint.WholeBounds
import Specimen.Proofs.Double.Arithmetic
import Specimen.Proofs.Double.Order
import Specimen.Proofs.Double.Rounding
import Specimen.Proofs.Double.Step
import Specimen.Proofs.Double.Whole
import Specimen.Proofs.Generation.Batch
import Specimen.Proofs.Instance.Annotation
import Specimen.Proofs.Instance.Array
import Specimen.Proofs.Instance.ArrayLength
import Specimen.Proofs.Instance.BoundedNumber
import Specimen.Proofs.Instance.Choice
import Specimen.Proofs.Instance.Congruence
import Specimen.Proofs.Instance.Dependents
import Specimen.Proofs.Instance.Depth
import Specimen.Proofs.Instance.Exclusion
import Specimen.Proofs.Instance.Failure
import Specimen.Proofs.Instance.Faultless
import Specimen.Proofs.Instance.Fits
import Specimen.Proofs.Instance.Forbidden
import Specimen.Proofs.Instance.Format
import Specimen.Proofs.Instance.Frame
import Specimen.Proofs.Instance.Integer
import Specimen.Proofs.Instance.IntegerRange
import Specimen.Proofs.Instance.Interpolation
import Specimen.Proofs.Instance.Keys
import Specimen.Proofs.Instance.Limits
import Specimen.Proofs.Instance.MadeUpNames
import Specimen.Proofs.Instance.Names
import Specimen.Proofs.Instance.Nesting
import Specimen.Proofs.Instance.Number
import Specimen.Proofs.Instance.NumberRange
import Specimen.Proofs.Instance.Object
import Specimen.Proofs.Instance.Overflow
import Specimen.Proofs.Instance.Places
import Specimen.Proofs.Instance.Plain
import Specimen.Proofs.Instance.Reaching
import Specimen.Proofs.Instance.Recording
import Specimen.Proofs.Instance.Step
import Specimen.Proofs.Instance.Telling
import Specimen.Proofs.Instance.Terminal
import Specimen.Proofs.Instance.Text
import Specimen.Proofs.Instance.TextLength
import Specimen.Proofs.Instance.UniqueItems
import Specimen.Proofs.Instance.Value
import Specimen.Proofs.Json.Equality
import Specimen.Proofs.Json.Finite
import Specimen.Proofs.Json.Zeros
import Specimen.Proofs.NameSet.Closure
import Specimen.Proofs.Normalization.Annotation
import Specimen.Proofs.Normalization.Combination
import Specimen.Proofs.Normalization.Composition
import Specimen.Proofs.Normalization.Descent
import Specimen.Proofs.Normalization.Equations
import Specimen.Proofs.Normalization.Exactness
import Specimen.Proofs.Normalization.Exclusion
import Specimen.Proofs.Normalization.Independence
import Specimen.Proofs.Normalization.Negation
import Specimen.Proofs.Normalization.Opening
import Specimen.Proofs.Normalization.Origin
import Specimen.Proofs.Normalization.Plain
import Specimen.Proofs.Normalization.Room
import Specimen.Proofs.Normalization.Satisfaction
import Specimen.Proofs.Numeral
import Specimen.Proofs.Options
import Specimen.Proofs.Outcome
import Specimen.Proofs.Pattern.Anchors
import Specimen.Proofs.Pattern.CharSet
import Specimen.Proofs.Pattern.Class
import Specimen.Proofs.Pattern.ClassSigns
import Specimen.Proofs.Pattern.Dialect
import Specimen.Proofs.Pattern.Language
import Specimen.Proofs.Pattern.Library
import Specimen.Proofs.Pattern.Matcher
import Specimen.Proofs.Pattern.Parser
import Specimen.Proofs.Pattern.Reader
import Specimen.Proofs.Pattern.Sampler
import Specimen.Proofs.Pattern.Samples
import Specimen.Proofs.Pattern.Thinned
import Specimen.Proofs.PlainText
import Specimen.Proofs.Pointer
import Specimen.Proofs.Provider.Bundled
import Specimen.Proofs.Provider.Sized
import Specimen.Proofs.Random.Draws
import Specimen.Proofs.Random.Total
import Specimen.Proofs.Report
import Specimen.Proofs.Report.History
import Specimen.Proofs.Schema.Anchors
import Specimen.Proofs.Schema.Annotation
import Specimen.Proofs.Schema.Arrival
import Specimen.Proofs.Schema.Chain
import Specimen.Proofs.Schema.Measure
import Specimen.Proofs.Schema.Place
import Specimen.Proofs.Seed
import Specimen.Provider.Basic
import Specimen.Provider.Bundled
import Specimen.Provider.Color
import Specimen.Provider.Hint
import Specimen.Provider.Locale
import Specimen.Provider.Words.Business
import Specimen.Provider.Words.Lorem
import Specimen.Provider.Words.Person
import Specimen.Provider.Words.Place
import Specimen.Random.ChaCha
import Specimen.Random.Range
import Specimen.Random.Shuffle
import Specimen.Random.Source
import Specimen.Report
import Specimen.Schema.Document
import Specimen.Schema.Error
import Specimen.Schema.Reference
import Specimen.Seed
import Specimen.Toml.Parser
import Specimen.Toml.Quoted
import Specimen.Toml.Scalar
import Specimen.Toml.Section
