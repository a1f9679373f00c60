import ConferenceBridge.Conference.Description
import ConferenceBridge.Conference.Subscription
import ConferenceBridge.Main
import ConferenceBridge.Proofs.Conference.Announcement
import ConferenceBridge.Proofs.Conference.Disconnection
import ConferenceBridge.Proofs.Conference.Management
import ConferenceBridge.Proofs.Conference.Subscriber
import ConferenceBridge.Proofs.Replay.Isolation
import ConferenceBridge.Proofs.Replay.Accounting
import ConferenceBridge.Proofs.Conference.Attribution
import ConferenceBridge.Proofs.Conference.Departure
import ConferenceBridge.Proofs.Replay.LineFormat
import ConferenceBridge.Proofs.Conference.Destruction
import ConferenceBridge.Proofs.Conference.Inertia
import ConferenceBridge.Proofs.Conference.Publication
import ConferenceBridge.Proofs.Conference.Separation
import ConferenceBridge.Proofs.Conference.Transcript
import ConferenceBridge.Proofs.Conference.Repetition
import ConferenceBridge.Proofs.Conference.Reordering
import ConferenceBridge.Proofs.Conference.Lifetime
import ConferenceBridge.Proofs.Conference.Mirroring
import ConferenceBridge.Proofs.Conference.FirstCause
import ConferenceBridge.Proofs.Replay.FirstCause
import ConferenceBridge.Proofs.Conference.Forwarding
import ConferenceBridge.Proofs.Conference.Refusal
import ConferenceBridge.Proofs.Replay.Tolerance
import ConferenceBridge.Proofs.Conference.Delivery
import ConferenceBridge.Proofs.Replay.Provenance
import ConferenceBridge.Proofs.Conference.Attendance
import ConferenceBridge.Proofs.Conference.Shuffling
