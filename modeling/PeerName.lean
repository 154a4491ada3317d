import PeerName.Demo
import PeerName.Main
import PeerName.Proofs.Journal.Event
import PeerName.Proofs.X509.Armoured
import PeerName.Proofs.Checker.AuditTrail
import PeerName.Proofs.CommandLine.Crash
import PeerName.Proofs.Settings.Override
import PeerName.Proofs.Verification.Independence
import PeerName.Proofs.Verification.Tightening
import PeerName.Proofs.Settings.InForce
import PeerName.Proofs.Journal.Succession
import PeerName.Proofs.Checker.Restart
import PeerName.Proofs.Settings.Written
import PeerName.Proofs.Settings.Spelling
import PeerName.Proofs.CommandLine.Lines
import PeerName.Proofs.Host.Join
import PeerName.Proofs.Verification.Records
import PeerName.Proofs.Settings.Review
