import BleFwUpdate.Session
import BleFwUpdate.Erasing
import BleFwUpdate.Bounds
import BleFwUpdate.Storing
import BleFwUpdate.Pointer
import BleFwUpdate.Programs
import BleFwUpdate.Placement
import BleFwUpdate.Retransmission
import BleFwUpdate.Completion
import BleFwUpdate.Host
import BleFwUpdate.Messages
import BleFwUpdate.Agreement
import BleFwUpdate.Handshake
import BleFwUpdate.Confinement
import BleFwUpdate.Authenticity
import BleFwUpdate.Link
import BleFwUpdate.Delivery
import BleFwUpdate.Transfer
import BleFwUpdate.EndToEnd
import BleFwUpdate.Formats
import BleFwUpdate.Failures
import BleFwUpdate.Repetition
import BleFwUpdate.Isolation
import BleFwUpdate.Windows
import BleFwUpdate.Turns
import BleFwUpdate.Lockstep
import BleFwUpdate.Randomness
import BleFwUpdate.Nonces
import BleFwUpdate.Sessions
import BleFwUpdate.Course
import BleFwUpdate.Synchrony
import BleFwUpdate.Packing
import BleFwUpdate.Period
import BleFwUpdate.Sizes
import BleFwUpdate.Corruption
import BleFwUpdate.Accesses
import BleFwUpdate.Pointers
import BleFwUpdate.Arrivals
import BleFwUpdate.Requests
import BleFwUpdate.Outcomes
import BleFwUpdate.Progress
import BleFwUpdate.Stalls
import BleFwUpdate.Losses
import BleFwUpdate.Radio
import BleFwUpdate.Responses
import BleFwUpdate.Handling
import BleFwUpdate.Finishing
