import ShaderBindings.FileTree.Edit
import ShaderBindings.Main
import ShaderBindings.Proofs.Comment.Source
import ShaderBindings.Proofs.Desc.Family
import ShaderBindings.Proofs.Desc.Pairs
import ShaderBindings.Proofs.Dump.Faithful
import ShaderBindings.Proofs.Dump.Load
import ShaderBindings.Proofs.FileTree.Writing
import ShaderBindings.Proofs.Identifier.Collision
import ShaderBindings.Proofs.Layout.Exact
import ShaderBindings.Proofs.Layout.TypeText
import ShaderBindings.Proofs.Module.Adequacy
import ShaderBindings.Proofs.Module.Header
import ShaderBindings.Proofs.Module.Identifiers
import ShaderBindings.Proofs.Module.Occurrence
import ShaderBindings.Proofs.Module.Payloads
import ShaderBindings.Proofs.Module.Sentinels
import ShaderBindings.Proofs.Module.Variant
import ShaderBindings.Proofs.ModuleName
import ShaderBindings.Proofs.Payload.Lossless
import ShaderBindings.Proofs.Reflection.Slots
import ShaderBindings.Proofs.Report
import ShaderBindings.Proofs.Request
import ShaderBindings.Proofs.Run.AllOrNothing
import ShaderBindings.Proofs.Run.HostTypes
import ShaderBindings.Proofs.Summary
import ShaderBindings.Proofs.Violation
import ShaderBindings.Reflection.Query
