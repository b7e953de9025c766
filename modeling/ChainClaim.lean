import ChainClaim.CommandLine.Run
import ChainClaim.Json.Forms
import ChainClaim.Main
import ChainClaim.Proofs.Address
import ChainClaim.Proofs.Codec
import ChainClaim.Proofs.Draft
import ChainClaim.Proofs.Encodings.Hex
import ChainClaim.Proofs.Envelope.Truncation
import ChainClaim.Proofs.Record.Canonical
import ChainClaim.Proofs.Record.Fees
import ChainClaim.Proofs.Record.Migration
import ChainClaim.Proofs.Record.Reachable
import ChainClaim.Proofs.Record.Signing
import ChainClaim.Proofs.Record.Truncation
import ChainClaim.Proofs.Sample.Seeded
import ChainClaim.Proofs.Summary
import ChainClaim.Proofs.Wire.Shifting
import ChainClaim.Proofs.Wire.VarintFaults
import ChainClaim.Proofs.Wire.Walks
import ChainClaim.Record.Migration
import ChainClaim.Sample.Recipe
import ChainClaim.Sample.Recorded
import ChainClaim.Sample.Seeded
