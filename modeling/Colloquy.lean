import Colloquy.Disk
import Colloquy.Main
import Colloquy.Proofs.Accumulation
import Colloquy.Proofs.Alternatives
import Colloquy.Proofs.Broadcasts
import Colloquy.Proofs.Ceiling
import Colloquy.Proofs.Containment
import Colloquy.Proofs.Counts
import Colloquy.Proofs.Filing
import Colloquy.Proofs.Finiteness
import Colloquy.Proofs.Holdings
import Colloquy.Proofs.Horizon
import Colloquy.Proofs.Mentions
import Colloquy.Proofs.Mismatches
import Colloquy.Proofs.Registration
import Colloquy.Proofs.Reloads
import Colloquy.Proofs.Idempotence
import Colloquy.Proofs.Resumption
import Colloquy.Proofs.RoundTrip
import Colloquy.Proofs.Shuffles
import Colloquy.Proofs.Snapshots
import Colloquy.Proofs.Unfolding
import Colloquy.Proofs.WayOut
import Colloquy.Proofs.Winners
import Colloquy.Proposal.Codec
import Colloquy.Session.Codec
