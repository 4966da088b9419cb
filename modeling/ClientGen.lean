import ClientGen.Document.Encoding
import ClientGen.Main
import ClientGen.Proofs.EnumIdentity
import ClientGen.Proofs.EnumNaming
import ClientGen.Proofs.BuildTermination
import ClientGen.Proofs.ViewInvariants
import ClientGen.Proofs.MethodNames
import ClientGen.Proofs.ArgumentNames
import ClientGen.Proofs.ArgumentReads
import ClientGen.Proofs.DialectAgreement
import ClientGen.Proofs.ResolutionIndependence
import ClientGen.Proofs.RepeatedResolution
import ClientGen.Proofs.BuildFailures
import ClientGen.Proofs.OptionEffects
import ClientGen.Proofs.MethodRoutes
import ClientGen.Proofs.Authentication
import ClientGen.Proofs.TypeNames
import ClientGen.Proofs.TypeReading
import ClientGen.Proofs.ModelEntries
import ClientGen.Proofs.OperationIds
import ClientGen.Proofs.DeclaredNames
import ClientGen.Proofs.AppendedPaths
import ClientGen.Proofs.CamelWords
import ClientGen.Proofs.MemberNames
import ClientGen.Proofs.CommentEnds
import ClientGen.Proofs.WorkspaceChanges
import ClientGen.Proofs.Generation
import ClientGen.Proofs.SingletonMarks
import ClientGen.Proofs.BaseAddresses
import ClientGen.Proofs.BodyExpansion
import ClientGen.Proofs.PathLiterals
import ClientGen.Proofs.PropertyMerging
import ClientGen.Proofs.NamelessReferences
import ClientGen.Proofs.FragmentEncoding
import ClientGen.Proofs.UnionReading
import ClientGen.Proofs.SettledNames
import ClientGen.Proofs.RouteNames
import ClientGen.Proofs.IdentifierNames
import ClientGen.Proofs.LiteralEscapes
import ClientGen.Proofs.NameRuns
