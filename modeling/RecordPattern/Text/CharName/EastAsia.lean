namespace RecordPattern.Text.CharName

-- Names of letters and signs of East Asian and other scripts, and of their forms.
def eastAsia : String :=
  "+2E80aCJK RADICAL REPEATcCLIFFcSECOND ONEdTWOdTHREEcPERSONcBOXcTABLEcKNIFE ONEdTWOcDIVINATIONcSEAL
  cSMALL ONEdTWOcLAME ONEdTWOdTHREEdFOURcSNAKEcTHREADcSNOUT ONEdTWOcHEART ONEdTWOcHANDcRAP
  +2E9BcCHOKEcSUNcMOONcDEATHcMOTHERcCIVILIANcWATER ONEdTWOcFIREcPAW ONEdTWO
  cSIMPLIFIED HALF TREE TRUNKcCOWcDOGcJADEcBOLT OF CLOTHcEYEcSPIRIT ONEdTWOcBAMBOOcSILK
  cbC-SIMPLIFIEDcNET ONEdTWOdTHREEdFOURcMESHcSHEEPcRAMcEWEcOLDcBRUSH ONEdTWOcMEATcMORTARcGRASS ONE
  dTWOdTHREEcTIGERcCLOTHEScWEST ONEdTWOcC-SIMPLIFIED SEEcSIMPLIFIED HORNcb+2EC8cC-SIMPLIFIED SPEECH
  dSHELLcFOOTcC-SIMPLIFIED CARTcSIMPLIFIED WALKcWALK ONEdTWOcCITYcC-SIMPLIFIED GOLDcLONG ONEdTWO
  cC-SIMPLIFIED LONGdGATEcMOUND ONEdTWOcRAINcBLUEcC-SIMPLIFIED TANNED LEATHERdLEAFdWINDdFLYcEAT ONE
  dTWOdTHREEcC-SIMPLIFIED EATcHEADcC-SIMPLIFIED HORSEcBONEcGHOSTcC-SIMPLIFIED FISHdBIRDdSALT
  cSIMPLIFIED WHEATdYELLOWcC-SIMPLIFIED FROGcJ-SIMPLIFIED EVENcbC-SIMPLIFIEDcJ-SIMPLIFIED TOOTH
  cbC-SIMPLIFIEDcJ-SIMPLIFIED DRAGONcbC-SIMPLIFIEDcTURTLEcbJ-SIMPLIFIEDcbC-SIMPLIFIED
  +2F00aKANGXI RADICAL ONEcLINEcDOTcSLASHcSECONDcHOOKcTWOcLIDcMANcLEGScENTERcEIGHTcDOWN BOXcCOVER
  cICEcTABLEcOPEN BOXcKNIFEcPOWERcWRAPcSPOONcRIGHT OPEN BOXcHIDING ENCLOSUREcTENcDIVINATIONcSEAL
  cCLIFFcPRIVATEcAGAINcMOUTHcENCLOSUREcEARTHcSCHOLARcGOdSLOWLYcEVENINGcBIGcWOMANcCHILDcROOFcINCH
  cSMALLcLAMEcCORPSEcSPROUTcMOUNTAINcRIVERcWORKcONESELFcTURBANcDRYcSHORT THREADcDOTTED CLIFF
  cLONG STRIDEcTWO HANDScSHOOTcBOWcSNOUTcBRISTLEcSTEPcHEARTcHALBERDcDOORcHANDcBRANCHcRAPcSCRIPT
  cDIPPERcAXEcSQUAREcNOTcSUNcSAYcMOONcTREEcLACKcSTOPcDEATHcWEAPONcDO NOTcCOMPAREcFURcCLANcSTEAM
  cWATERcFIREcCLAWcFATHERcDOUBLE XcHALF TREE TRUNKcSLICEcFANGcCOWcDOGcPROFOUNDcJADEcMELONcTILEcSWEET
  cLIFEcUSEcFIELDcBOLT OF CLOTHcSICKNESScDOTTED TENTcWHITEcSKINcDISHcEYEcSPEARcARROWcSTONEcSPIRIT
  cTRACKcGRAINcCAVEcSTANDcBAMBOOcRICEcSILKcJARcNETcSHEEPcFEATHERcOLDcANDcPLOWcEARcBRUSHcMEAT
  cMINISTERcSELFcARRIVEcMORTARcTONGUEcOPPOSEcBOATcSTOPPINGcCOLORcGRASScTIGERcINSECTcBLOOD
  cWALK ENCLOSUREcCLOTHEScWESTcSEEcHORNcSPEECHcVALLEYcBEANcPIGcBADGERcSHELLcREDcRUNcFOOTcBODYcCART
  cBITTERcMORNINGcWALKcCITYcWINEcDISTINGUISHcVILLAGEcGOLDcLONGcGATEcMOUNDcSLAVEcSHORT TAILED BIRD
  cRAINcBLUEcWRONGcFACEcLEATHERcbTANNEDcLEEKcSOUNDcLEAFcWINDcFLYcEATcHEADcFRAGRANTcHORSEcBONEcTALL
  cHAIRcFIGHTcSACRIFICIAL WINEcCAULDRONcGHOSTcFISHcBIRDcSALTcDEERcWHEATcHEMPcYELLOWcMILLETcBLACK
  cEMBROIDERYcFROGcTRIPODcDRUMcRATcNOSEcEVENcTOOTHcDRAGONcTURTLEcFLUTE
  +2FF0aIDEOGRAPHIC DESCRIPTION CHARACTER LEFT TO RIGHTdABOVE TO BELOWdLEFT TO MIDDLE AND RIGHT
  dABOVE TO MIDDLE AND BELOWdFULL SURROUNDdSURROUND FROM ABOVEfBELOWfLEFTfbUPPERgRIGHTfLOWER LEFT
  dOVERLAID+3000bSPACEbCOMMAbFULL STOPaDITTO MARKaJAPANESE INDUSTRIAL STANDARD SYMBOL
  aIDEOGRAPHIC ITERATION MARKbbCLOSINGbNUMBER ZEROaLEFT ANGLE BRACKETacRIGHTacLEFT DOUBLEadRIGHT
  abLEFT CORNERacRIGHTacLEFT WHITEadRIGHTabLEFT BLACK LENTICULARadRIGHTaPOSTAL MARKabGETA
  aLEFT TORTOISE SHELL BRACKETadRIGHTabLEFT WHITE LENTICULARadRIGHTabLEFT WHITE TORTOISE SHELL
  aeRIGHTabLEFT WHITE SQUAREadRIGHTaWAVE DASHaREVERSED DOUBLE PRIME QUOTATION MARKae+301FaeLOW
  aPOSTAL MARK FACEaHANGZHOU NUMERAL ONEcTWOcTHREEcFOURcFIVEcSIXcSEVENcEIGHTcNINE
  aIDEOGRAPHIC LEVEL TONE MARKbcRISINGbcDEPARTINGbcENTERINGacHANGUL SINGLE DOTbdDOUBLEaWAVY DASH
  aVERTICAL KANA REPEAT MARKdbWITH VOICED SOUNDdMARK UPPER HALFddWITH VOICED SOUNDdbMARK LOWER
  aCIRCLED POSTAL MARKaIDEOGRAPHIC TELEGRAPH LINE FEED SEPARATOR SYMBOLaHANGZHOU NUMERAL TENcTWENTY
  cTHIRTYaVERTICAL IDEOGRAPHIC ITERATION MARKabMASUabPART ALTERNATION
  aIDEOGRAPHIC VARIATION INDICATORbHALF FILL SPACE+3041aHIRAGANA LETTER SMALL Acb+3043cSMALL Icb
  +3045cSMALL Ucb+3047cSMALL Ecb+3049cSMALL Ocb+304BcKAcGAcKIcGIcKUcGUcKEcGEcKOcGOcSAcZAcSIcZIcSUcZU
  cSEcZEcSOcZOcTAcDAcTIcDIcSMALL TUcb+3065cDUcTEcDEcTOcDOcNAcNIcNUcNEcNOcHAcBAcPAcHIcBIcPIcHUcBUcPU
  cHEcBEcPEcHOcBOcPOcMAcMIcMUcMEcMOcSMALL YAcb+3085cSMALL YUcb+3087cSMALL YOcb+3089cRAcRIcRUcREcRO
  cSMALL WAcb+3090cWIcWEcWOcNcVUcSMALL KAdKE+3099aCOMBINING KATAKANA-HIRAGANA VOICED SOUND MARK
  ccSEMI-VOICEDacKATAKANA-HIRAGANA VOICEDbcSEMI-VOICEDabHIRAGANA ITERATIONbcVOICEDbDIGRAPH YORI
  aKATAKANA-HIRAGANA DOUBLE HYPHENaKATAKANA LETTER SMALL Acb+30A3cSMALL Icb+30A5cSMALL Ucb
  +30A7cSMALL Ecb+30A9cSMALL Ocb+30ABcKAcGAcKIcGIcKUcGUcKEcGEcKOcGOcSAcZAcSIcZIcSUcZUcSEcZEcSOcZOcTA
  cDAcTIcDIcSMALL TUcb+30C5cDUcTEcDEcTOcDOcNAcNIcNUcNEcNOcHAcBAcPAcHIcBIcPIcHUcBUcPUcHEcBEcPEcHOcBO
  cPOcMAcMIcMUcMEcMOcSMALL YAcb+30E5cSMALL YUcb+30E7cSMALL YOcb+30E9cRAcRIcRUcREcROcSMALL WAcb
  +30F0cWIcWEcWOcNcVUcSMALL KAdKEcVAcVIcVEcVObMIDDLE DOTaKATAKANA-HIRAGANA PROLONGED SOUND MARK
  abKATAKANA ITERATIONbcVOICEDbDIGRAPH KOTO+3105aBOPOMOFO LETTER BcPcMcFcDcTcNcLcGcKcHcJcQcXcZHcCH
  cSHcRcZcCcScAcOcEcEHcAIcEIcAUcOUcANcENcANGcENGcERcIcUcIUcVcNGcGNcIHcO WITH DOT ABOVEcNN
  +3131aHANGUL LETTER KIYEOKcSSANGKIYEOKcKIYEOK-SIOScNIEUNcNIEUN-CIEUCcNIEUN-HIEUHcTIKEUT
  cSSANGTIKEUTcRIEULcRIEUL-KIYEOKcRIEUL-MIEUMcRIEUL-PIEUPcRIEUL-SIOScRIEUL-THIEUTHcRIEUL-PHIEUPH
  cRIEUL-HIEUHcMIEUMcPIEUPcSSANGPIEUPcPIEUP-SIOScSIOScSSANGSIOScIEUNGcCIEUCcSSANGCIEUCcCHIEUCH
  cKHIEUKHcTHIEUTHcPHIEUPHcHIEUHcAcAEcYAcYAEcEOcEcYEOcYEcOcWAcWAEcOEcYOcUcWEOcWEcWIcYUcEUcYIcI
  bFILLERbLETTER SSANGNIEUNcNIEUN-TIKEUTcNIEUN-SIOScNIEUN-PANSIOScRIEUL-KIYEOK-SIOScRIEUL-TIKEUT
  cRIEUL-PIEUP-SIOScRIEUL-PANSIOScRIEUL-YEORINHIEUHcMIEUM-PIEUPcMIEUM-SIOScMIEUM-PANSIOS
  cKAPYEOUNMIEUMcPIEUP-KIYEOKcPIEUP-TIKEUTcPIEUP-SIOS-KIYEOKcPIEUP-SIOS-TIKEUTcPIEUP-CIEUC
  cPIEUP-THIEUTHcKAPYEOUNPIEUPcKAPYEOUNSSANGPIEUPcSIOS-KIYEOKcSIOS-NIEUNcSIOS-TIKEUTcSIOS-PIEUP
  cSIOS-CIEUCcPANSIOScSSANGIEUNGcYESIEUNGcYESIEUNG-SIOScYESIEUNG-PANSIOScKAPYEOUNPHIEUPHcSSANGHIEUH
  cYEORINHIEUHcYO-YAcYO-YAEcYO-IcYU-YEOcYU-YEcYU-IcARAEAcARAEAE
  +3190aIDEOGRAPHIC ANNOTATION LINKING MARKcbREVERSEcbONEcbTWOcbTHREEcbFOURcbTOPcbMIDDLEcbBOTTOM
  cbFIRSTcbSECONDcbTHIRDcbFOURTHcbHEAVENcbEARTHcbMANaBOPOMOFO LETTER BUcZIcJIcGUcEEcENNcOOcONNcIR
  cANNcINNcUNNcIMcNGGcAINNcAUNNcAMcOMcONGcINNNbFINAL LETTER PdTdKdHbLETTER GHcLHcZYbFINAL LETTER G
  bLETTER GWcKWcOEcAHaCJK STROKE TcWGcXGcBXGcSWcHZZcHZGcHPcHZWGcSZWGcHZTcHZZPcHPWGcHZWcHZZZcNcHcScP
  cSPcDcHZcHGcSZcSWZcSTcSGcPDcPZcTNcSZZcSWGcHXWGcHZZZGcPGcQ+31F0aKATAKANA LETTER SMALL KUdSIdSUdTO
  dNUdHAdHIdHUdHEdHOdMUdRAdRIdRUdREdROaPARENTHESIZED HANGUL KIYEOKcNIEUNcTIKEUTcRIEULcMIEUMcPIEUP
  cSIOScIEUNGcCIEUCcCHIEUCHcKHIEUKHcTHIEUTHcPHIEUPHcHIEUHcKIYEOK AcbNIEUNcbTIKEUTcbRIEULcbMIEUM
  cbPIEUPcbSIOScbIEUNGcbCIEUCcbCHIEUCHcbKHIEUKHcbTHIEUTHcbPHIEUPHcbHIEUHcCIEUC U
  bKOREAN CHARACTER OJEONdO HU+3220bIDEOGRAPH ONEcTWOcTHREEcFOURcFIVEcSIXcSEVENcEIGHTcNINEcTENcMOON
  cFIREcWATERcWOODcMETALcEARTHcSUNcSTOCKcHAVEcSOCIETYcNAMEcSPECIALcFINANCIALcCONGRATULATIONcLABOR
  cREPRESENTcCALLcSTUDYcSUPERVISEcENTERPRISEcRESOURCEcALLIANCEcFESTIVALcRESTcSELFcREACH
  aCIRCLED IDEOGRAPH QUESTIONcKINDERGARTENcSCHOOLcKOTObNUMBER TEN ON BLACK SQUAREcdTWENTYcdTHIRTY
  cdFORTYcdFIFTYcdSIXTYcdSEVENTYcdEIGHTYaPARTNERSHIP SIGNaCIRCLED NUMBER TWENTY ONEdTWOdTHREEdFOUR
  dFIVEdSIXdSEVENdEIGHTdNINEcTHIRTYdONEdTWOdTHREEdFOURdFIVEbHANGUL KIYEOKcNIEUNcTIKEUTcRIEULcMIEUM
  cPIEUPcSIOScIEUNGcCIEUCcCHIEUCHcKHIEUKHcTHIEUTHcPHIEUPHcHIEUHcKIYEOK AcbNIEUNcbTIKEUTcbRIEUL
  cbMIEUMcbPIEUPcbSIOScbIEUNGcbCIEUCcbCHIEUCHcbKHIEUKHcbTHIEUTHcbPHIEUPHcbHIEUH
  bKOREAN CHARACTER CHAMKOdJUEUIbHANGUL IEUNG UaKOREAN STANDARD SYMBOLaCIRCLED IDEOGRAPH ONEcTWO
  cTHREEcFOURcFIVEcSIXcSEVENcEIGHTcNINEcTENcMOONcFIREcWATERcWOODcMETALcEARTHcSUNcSTOCKcHAVEcSOCIETY
  cNAMEcSPECIALcFINANCIALcCONGRATULATIONcLABORcSECRETcMALEcFEMALEcSUITABLEcEXCELLENTcPRINTcATTENTION
  cITEMcRESTcCOPYcCORRECTcHIGHcCENTREcLOWcLEFTcRIGHTcMEDICINEcRELIGIONcSTUDYcSUPERVISEcENTERPRISE
  cRESOURCEcALLIANCEcNIGHTbNUMBER THIRTY SIXdSEVENdEIGHTdNINEcFORTYdONEdTWOdTHREEdFOURdFIVEdSIX
  dSEVENdEIGHTdNINEcFIFTYaIDEOGRAPHIC TELEGRAPH SYMBOL FOR JANUARYeFEBRUARYeMARCHeAPRILeMAYeJUNE
  eJULYeAUGUSTeSEPTEMBEReOCTOBEReNOVEMBEReDECEMBERaSQUARE HGbERGbEVaLIMITED LIABILITY SIGN
  aCIRCLED KATAKANA AcIcUcEcOcKAcKIcKUcKEcKOcSAcSIcSUcSEcSOcTAcTIcTUcTEcTOcNAcNIcNUcNEcNOcHAcHIcHU
  cHEcHOcMAcMIcMUcMEcMOcYAcYUcYOcRAcRIcRUcREcROcWAcWIcWEcWOaSQUARE ERA NAME REIWAbAPAATObARUHUA
  bANPEAbAARUbININGUbINTIbUONbESUKUUDObEEKAAbONSUbOOMUbKAIRIbKARATTObKARORIIbGARONbGANMAbGIGAbGINII
  bKYURIIbGIRUDAAbKIRObKIROGURAMUbKIROMEETORUbKIROWATTObGURAMUbGURAMUTONbKURUZEIRObKUROONEbKEESU
  bKORUNAbKOOPObSAIKURUbSANTIIMUbSIRINGUbSENTIbSENTObDAASUbDESIbDORUbTONbNANObNOTTObHAITUbPAASENTO
  bPAATUbBAARERUbPIASUTORUbPIKURUbPIKObBIRUbHUARADDObHUIITObBUSSYERUbHURANbHEKUTAARUbPESObPENIHI
  bHERUTUbPENSUbPEEZIbBEETAbPOINTObBORUTObHONbPONDObHOORUbHOONbMAIKURObMAIRUbMAHHAbMARUKUbMANSYON
  bMIKURONbMIRIbMIRIBAARUbMEGAbMEGATONbMEETORUbYAADObYAARUbYUANbRITTORUbRIRAbRUPIIbRUUBURUbREMU
  bRENTOGENbWATTOaIDEOGRAPHIC TELEGRAPH SYMBOL FOR HOUR ZEROfONEfTWOfTHREEfFOURfFIVEfSIXfSEVENfEIGHT
  fNINEfTENfELEVENfTWELVEfTHIRTEENfFOURTEENfFIFTEENfSIXTEENfSEVENTEENfEIGHTEENfNINETEENfTWENTY
  fTWENTY-ONEfTWENTY-TWOfTWENTY-THREEfTWENTY-FOURaSQUARE HPAbDAbAUbBARbOVbPCbDMcSQUAREDcCUBEDbIU
  bERA NAME HEISEIdSYOUWAdTAISYOUdMEIZIbCORPORATIONbPA AMPSbNAbMU AbMAbKAbKBbMBbGBbCALbKCALbPFbNF
  bMU FcGbMGbKGbHZbKHZbMHZbGHZbTHZbMU LbMLbDLbKLbFMbNMbMU MbMMbCMbKMbMM SQUAREDbbCMbbMbbKMbMM CUBED
  bbCMbbMbbKMbM OVER SeSQUAREDbPAbKPAbMPAbGPAbRADcOVER SeSQUAREDbPSbNSbMU SbMSbPVbNVbMU VbMVbKV
  bMV MEGAbPWbNWbMU WbMWbKWbMW MEGAbK OHMbbMbAMbBQbCCbCDbC OVER KGbCObDBbGYbHAbHPbINbKKbKM CAPITAL
  bKTbLMbLNbLOGbLXbMB SMALLbMILbMOLbPHbPMbPPMbPRbSRbSVbWBbV OVER MbcA
  aIDEOGRAPHIC TELEGRAPH SYMBOL FOR DAY ONEfTWOfTHREEfFOURfFIVEfSIXfSEVENfEIGHTfNINEfTENfELEVEN
  fTWELVEfTHIRTEENfFOURTEENfFIFTEENfSIXTEENfSEVENTEENfEIGHTEENfNINETEENfTWENTYfTWENTY-ONEfTWENTY-TWO
  fTWENTY-THREEfTWENTY-FOURfTWENTY-FIVEfTWENTY-SIXfTWENTY-SEVENfTWENTY-EIGHTfTWENTY-NINEfTHIRTY
  fTHIRTY-ONEaSQUARE GAL+4DC0aHEXAGRAM FOR THE CREATIVE HEAVENdRECEPTIVE EARTH
  cDIFFICULTY AT THE BEGINNINGcYOUTHFUL FOLLYcWAITINGcCONFLICTcTHE ARMYcHOLDING TOGETHER
  cSMALL TAMINGcTREADINGcPEACEcSTANDSTILLcFELLOWSHIPcGREAT POSSESSIONcMODESTYcENTHUSIASMcFOLLOWING
  cWORK ON THE DECAYEDcAPPROACHcCONTEMPLATIONcBITING THROUGHcGRACEcSPLITTING APARTcRETURNcINNOCENCE
  cGREAT TAMINGcMOUTH CORNERScGREAT PREPONDERANCEcTHE ABYSMAL WATERdCLINGING FIREcINFLUENCEcDURATION
  cRETREATcGREAT POWERcPROGRESScDARKENING OF THE LIGHTcTHE FAMILYcOPPOSITIONcOBSTRUCTIONcDELIVERANCE
  cDECREASEcINCREASEcBREAKTHROUGHcCOMING TO MEETcGATHERING TOGETHERcPUSHING UPWARDcOPPRESSION
  cTHE WELLcREVOLUTIONcTHE CAULDRONdAROUSING THUNDERdKEEPING STILL MOUNTAINcDEVELOPMENT
  cTHE MARRYING MAIDENcABUNDANCEcTHE WANDERERdGENTLE WINDdJOYOUS LAKEcDISPERSIONcLIMITATION
  cINNER TRUTHcSMALL PREPONDERANCEcAFTER COMPLETIONcbBEFORE+A000aYI SYLLABLE ITcIXcIcIPcIETcIEXcIE
  cIEPcATcAXcAcAPcUOXcUOcUOPcOTcOXcOcOPcEXcEcWUcBITcBIXcBIcBIPcBIETcBIEXcBIEcBIEPcBATcBAXcBAcBAP
  cBUOXcBUOcBUOPcBOTcBOXcBOcBOPcBEXcBEcBEPcBUTcBUXcBUcBUPcBURXcBURcBYTcBYXcBYcBYPcBYRXcBYRcPITcPIX
  cPIcPIPcPIEXcPIEcPIEPcPATcPAXcPAcPAPcPUOXcPUOcPUOPcPOTcPOXcPOcPOPcPUTcPUXcPUcPUPcPURXcPURcPYTcPYX
  cPYcPYPcPYRXcPYRcBBITcBBIXcBBIcBBIPcBBIETcBBIEXcBBIEcBBIEPcBBATcBBAXcBBAcBBAPcBBUOXcBBUOcBBUOP
  cBBOTcBBOXcBBOcBBOPcBBEXcBBEcBBEPcBBUTcBBUXcBBUcBBUPcBBURXcBBURcBBYTcBBYXcBBYcBBYPcNBITcNBIXcNBI
  cNBIPcNBIEXcNBIEcNBIEPcNBATcNBAXcNBAcNBAPcNBOTcNBOXcNBOcNBOPcNBUTcNBUXcNBUcNBUPcNBURXcNBURcNBYT
  cNBYXcNBYcNBYPcNBYRXcNBYRcHMITcHMIXcHMIcHMIPcHMIEXcHMIEcHMIEPcHMATcHMAXcHMAcHMAPcHMUOXcHMUOcHMUOP
  cHMOTcHMOXcHMOcHMOPcHMUTcHMUXcHMUcHMUPcHMURXcHMURcHMYXcHMYcHMYPcHMYRXcHMYRcMITcMIXcMIcMIPcMIEXcMIE
  cMIEPcMATcMAXcMAcMAPcMUOTcMUOXcMUOcMUOPcMOTcMOXcMOcMOPcMEXcMEcMUTcMUXcMUcMUPcMURXcMURcMYTcMYXcMY
  cMYPcFITcFIXcFIcFIPcFATcFAXcFAcFAPcFOXcFOcFOPcFUTcFUXcFUcFUPcFURXcFURcFYTcFYXcFYcFYPcVITcVIXcVI
  cVIPcVIETcVIEXcVIEcVIEPcVATcVAXcVAcVAPcVOTcVOXcVOcVOPcVEXcVEPcVUTcVUXcVUcVUPcVURXcVURcVYTcVYXcVY
  cVYPcVYRXcVYRcDITcDIXcDIcDIPcDIEXcDIEcDIEPcDATcDAXcDAcDAPcDUOXcDUOcDOTcDOXcDOcDOPcDEXcDEcDEPcDUT
  cDUXcDUcDUPcDURXcDURcTITcTIXcTIcTIPcTIEXcTIEcTIEPcTATcTAXcTAcTAPcTUOTcTUOXcTUOcTUOPcTOTcTOXcTOcTOP
  cTEXcTEcTEPcTUTcTUXcTUcTUPcTURXcTURcDDITcDDIXcDDIcDDIPcDDIEXcDDIEcDDIEPcDDATcDDAXcDDAcDDAPcDDUOX
  cDDUOcDDUOPcDDOTcDDOXcDDOcDDOPcDDEXcDDEcDDEPcDDUTcDDUXcDDUcDDUPcDDURXcDDURcNDITcNDIXcNDIcNDIP
  cNDIEXcNDIEcNDATcNDAXcNDAcNDAPcNDOTcNDOXcNDOcNDOPcNDEXcNDEcNDEPcNDUTcNDUXcNDUcNDUPcNDURXcNDURcHNIT
  cHNIXcHNIcHNIPcHNIETcHNIEXcHNIEcHNIEPcHNATcHNAXcHNAcHNAPcHNUOXcHNUOcHNOTcHNOXcHNOPcHNEXcHNEcHNEP
  cHNUTcNITcNIXcNIcNIPcNIEXcNIEcNIEPcNAXcNAcNAPcNUOXcNUOcNUOPcNOTcNOXcNOcNOPcNEXcNEcNEPcNUTcNUXcNU
  cNUPcNURXcNURcHLITcHLIXcHLIcHLIPcHLIEXcHLIEcHLIEPcHLATcHLAXcHLAcHLAPcHLUOXcHLUOcHLUOPcHLOXcHLO
  cHLOPcHLEXcHLEcHLEPcHLUTcHLUXcHLUcHLUPcHLURXcHLURcHLYTcHLYXcHLYcHLYPcHLYRXcHLYRcLITcLIXcLIcLIP
  cLIETcLIEXcLIEcLIEPcLATcLAXcLAcLAPcLUOTcLUOXcLUOcLUOPcLOTcLOXcLOcLOPcLEXcLEcLEPcLUTcLUXcLUcLUP
  cLURXcLURcLYTcLYXcLYcLYPcLYRXcLYRcGITcGIXcGIcGIPcGIETcGIEXcGIEcGIEPcGATcGAXcGAcGAPcGUOTcGUOXcGUO
  cGUOPcGOTcGOXcGOcGOPcGETcGEXcGEcGEPcGUTcGUXcGUcGUPcGURXcGURcKITcKIXcKIcKIPcKIEXcKIEcKIEPcKATcKAX
  cKAcKAPcKUOXcKUOcKUOPcKOTcKOXcKOcKOPcKETcKEXcKEcKEPcKUTcKUXcKUcKUPcKURXcKURcGGITcGGIXcGGIcGGIEX
  cGGIEcGGIEPcGGATcGGAXcGGAcGGAPcGGUOTcGGUOXcGGUOcGGUOPcGGOTcGGOXcGGOcGGOPcGGETcGGEXcGGEcGGEPcGGUT
  cGGUXcGGUcGGUPcGGURXcGGURcMGIEXcMGIEcMGATcMGAXcMGAcMGAPcMGUOXcMGUOcMGUOPcMGOTcMGOXcMGOcMGOPcMGEX
  cMGEcMGEPcMGUTcMGUXcMGUcMGUPcMGURXcMGURcHXITcHXIXcHXIcHXIPcHXIETcHXIEXcHXIEcHXIEPcHXATcHXAXcHXA
  cHXAPcHXUOTcHXUOXcHXUOcHXUOPcHXOTcHXOXcHXOcHXOPcHXEXcHXEcHXEPcNGIEXcNGIEcNGIEPcNGATcNGAXcNGAcNGAP
  cNGUOTcNGUOXcNGUOcNGOTcNGOXcNGOcNGOPcNGEXcNGEcNGEPcHITcHIEXcHIEcHATcHAXcHAcHAPcHUOTcHUOXcHUOcHUOP
  cHOTcHOXcHOcHOPcHEXcHEcHEPcWATcWAXcWAcWAPcWUOXcWUOcWUOPcWOXcWOcWOPcWEXcWEcWEPcZITcZIXcZIcZIPcZIEX
  cZIEcZIEPcZATcZAXcZAcZAPcZUOXcZUOcZUOPcZOTcZOXcZOcZOPcZEXcZEcZEPcZUTcZUXcZUcZUPcZURXcZURcZYTcZYX
  cZYcZYPcZYRXcZYRcCITcCIXcCIcCIPcCIETcCIEXcCIEcCIEPcCATcCAXcCAcCAPcCUOXcCUOcCUOPcCOTcCOXcCOcCOPcCEX
  cCEcCEPcCUTcCUXcCUcCUPcCURXcCURcCYTcCYXcCYcCYPcCYRXcCYRcZZITcZZIXcZZIcZZIPcZZIETcZZIEXcZZIEcZZIEP
  cZZATcZZAXcZZAcZZAPcZZOXcZZOcZZOPcZZEXcZZEcZZEPcZZUXcZZUcZZUPcZZURXcZZURcZZYTcZZYXcZZYcZZYPcZZYRX
  cZZYRcNZITcNZIXcNZIcNZIPcNZIEXcNZIEcNZIEPcNZATcNZAXcNZAcNZAPcNZUOXcNZUOcNZOXcNZOPcNZEXcNZEcNZUX
  cNZUcNZUPcNZURXcNZURcNZYTcNZYXcNZYcNZYPcNZYRXcNZYRcSITcSIXcSIcSIPcSIEXcSIEcSIEPcSATcSAXcSAcSAP
  cSUOXcSUOcSUOPcSOTcSOXcSOcSOPcSEXcSEcSEPcSUTcSUXcSUcSUPcSURXcSURcSYTcSYXcSYcSYPcSYRXcSYRcSSITcSSIX
  cSSIcSSIPcSSIEXcSSIEcSSIEPcSSATcSSAXcSSAcSSAPcSSOTcSSOXcSSOcSSOPcSSEXcSSEcSSEPcSSUTcSSUXcSSUcSSUP
  cSSYTcSSYXcSSYcSSYPcSSYRXcSSYRcZHATcZHAXcZHAcZHAPcZHUOXcZHUOcZHUOPcZHOTcZHOXcZHOcZHOPcZHETcZHEX
  cZHEcZHEPcZHUTcZHUXcZHUcZHUPcZHURXcZHURcZHYTcZHYXcZHYcZHYPcZHYRXcZHYRcCHATcCHAXcCHAcCHAPcCHUOT
  cCHUOXcCHUOcCHUOPcCHOTcCHOXcCHOcCHOPcCHETcCHEXcCHEcCHEPcCHUXcCHUcCHUPcCHURXcCHURcCHYTcCHYXcCHY
  cCHYPcCHYRXcCHYRcRRAXcRRAcRRUOXcRRUOcRROTcRROXcRROcRROPcRRETcRREXcRREcRREPcRRUTcRRUXcRRUcRRUP
  cRRURXcRRURcRRYTcRRYXcRRYcRRYPcRRYRXcRRYRcNRATcNRAXcNRAcNRAPcNROXcNROcNROPcNRETcNREXcNREcNREPcNRUT
  cNRUXcNRUcNRUPcNRURXcNRURcNRYTcNRYXcNRYcNRYPcNRYRXcNRYRcSHATcSHAXcSHAcSHAPcSHUOXcSHUOcSHUOPcSHOT
  cSHOXcSHOcSHOPcSHETcSHEXcSHEcSHEPcSHUTcSHUXcSHUcSHUPcSHURXcSHURcSHYTcSHYXcSHYcSHYPcSHYRXcSHYRcRAT
  cRAXcRAcRAPcRUOXcRUOcRUOPcROTcROXcROcROPcREXcREcREPcRUTcRUXcRUcRUPcRURXcRURcRYTcRYXcRYcRYPcRYRX
  cRYRcJITcJIXcJIcJIPcJIETcJIEXcJIEcJIEPcJUOTcJUOXcJUOcJUOPcJOTcJOXcJOcJOPcJUTcJUXcJUcJUPcJURXcJUR
  cJYTcJYXcJYcJYPcJYRXcJYRcQITcQIXcQIcQIPcQIETcQIEXcQIEcQIEPcQUOTcQUOXcQUOcQUOPcQOTcQOXcQOcQOPcQUT
  cQUXcQUcQUPcQURXcQURcQYTcQYXcQYcQYPcQYRXcQYRcJJITcJJIXcJJIcJJIPcJJIETcJJIEXcJJIEcJJIEPcJJUOXcJJUO
  cJJUOPcJJOTcJJOXcJJOcJJOPcJJUTcJJUXcJJUcJJUPcJJURXcJJURcJJYTcJJYXcJJYcJJYPcNJITcNJIXcNJIcNJIP
  cNJIETcNJIEXcNJIEcNJIEPcNJUOXcNJUOcNJOTcNJOXcNJOcNJOPcNJUXcNJUcNJUPcNJURXcNJURcNJYTcNJYXcNJYcNJYP
  cNJYRXcNJYRcNYITcNYIXcNYIcNYIPcNYIETcNYIEXcNYIEcNYIEPcNYUOXcNYUOcNYUOPcNYOTcNYOXcNYOcNYOPcNYUT
  cNYUXcNYUcNYUPcXITcXIXcXIcXIPcXIETcXIEXcXIEcXIEPcXUOXcXUOcXOTcXOXcXOcXOPcXYTcXYXcXYcXYPcXYRXcXYR
  cYITcYIXcYIcYIPcYIETcYIEXcYIEcYIEPcYUOTcYUOXcYUOcYUOPcYOTcYOXcYOcYOPcYUTcYUXcYUcYUPcYURXcYURcYYT
  cYYXcYYcYYPcYYRXcYYR+A490bRADICAL QOTcLIcKITcNYIPcCYPcSSIcGGOPcGEPcMIcHXITcLYRcBBUTcMOPcYOcPUT
  cHXUOcTATcGAcZUPcCYTcDDURcBURcGGUOcNYOPcTUcOPcJJUTcZOTcPYTcHMOcYITcVURcSHYcVEPcZAcJOcNZUPcJJYcGOT
  cJJIEcWOcDUcSHURcLIEcCYcCUOPcCIPcHXOPcSHATcZURcSHOPcCHEcZZIETcNBIEcKE+A4D0aLISU LETTER BAcPAcPHA
  cDAcTAcTHAcGAcKAcKHAcJAcCAcCHAcDZAcTSAcTSHAcMAcNAcLAcSAcZHAcZAcNGAcHAcXAcHHAcFAcWAcSHAcYAcGHAcAcAE
  cEcEUcIcOcUcUEcUHcOEcTONE MYA TIdNA POdMYA CYAeBOeNAeJEUbPUNCTUATION COMMAcFULL STOP
  aVAI SYLLABLE EEcEENcHEEcWEEcWEENcPEEcBHEEcBEEcMBEEcKPEEcMGBEEcGBEEcFEEcVEEcTEEcTHEEcDHEEcDHHEE
  cLEEcREEcDEEcNDEEcSEEcSHEEcZEEcZHEEcCEEcJEEcNJEEcYEEcKEEcNGGEEcGEEcMEEcNEEcNYEEcIcINcHIcHINcWIcWIN
  cPIcBHIcBIcMBIcKPIcMGBIcGBIcFIcVIcTIcTHIcDHIcDHHIcLIcRIcDIcNDIcSIcSHIcZIcZHIcCIcJIcNJIcYIcKIcNGGI
  cGIcMIcNIcNYIcAcANcNGANcHAcHANcWAcWANcPAcBHAcBAcMBAcKPAcKPANcMGBAcGBAcFAcVAcTAcTHAcDHAcDHHAcLAcRA
  cDAcNDAcSAcSHAcZAcZHAcCAcJAcNJAcYAcKAcKANcNGGAcGAcMAcNAcNYAcOOcOONcHOOcWOOcWOONcPOOcBHOOcBOOcMBOO
  cKPOOcMGBOOcGBOOcFOOcVOOcTOOcTHOOcDHOOcDHHOOcLOOcROOcDOOcNDOOcSOOcSHOOcZOOcZHOOcCOOcJOOcNJOOcYOO
  cKOOcNGGOOcGOOcMOOcNOOcNYOOcUcUNcHUcHUNcWUcWUNcPUcBHUcBUcMBUcKPUcMGBUcGBUcFUcVUcTUcTHUcDHUcDHHUcLU
  cRUcDUcNDUcSUcSHUcZUcZHUcCUcJUcNJUcYUcKUcNGGUcGUcMUcNUcNYUcOcONcNGONcHOcHONcWOcWONcPOcBHOcBOcMBO
  cKPOcMGBOcGBOcGBONcFOcVOcTOcTHOcDHOcDHHOcLOcROcDOcNDOcSOcSHOcZOcZHOcCOcJOcNJOcYOcKOcNGGOcGOcMOcNO
  cNYOcEcENcNGENcHEcHENcWEcWENcPEcBHEcBEcMBEcKPEcKPENcMGBEcGBEcGBENcFEcVEcTEcTHEcDHEcDHHEcLEcREcDE
  cNDEcSEcSHEcZEcZHEcCEcJEcNJEcYEcKEcNGGEcNGGENcGEcGENcMEcNEcNYEcNGcLENGTHENERbCOMMAbFULL STOP
  bQUESTION MARKbSYLLABLE NDOLE FAdKAdSOObSYMBOL FEENGcKEENGcTINGcNIIcBANGcFAAcTAAcDANGcDOONGcKUNG
  cTONGcDO-OcJONGbDIGIT ZEROcONEcTWOcTHREEcFOURcFIVEcSIXcSEVENcEIGHTcNINEbSYLLABLE NDOLE MAdDO
  +A640aCYRILLIC CAPITAL LETTER ZEMLYAbcSMALLbCAPITAL LETTER DZELObcSMALL
  bCAPITAL LETTER REVERSED DZEbdSMALLbCAPITAL LETTER IOTAbcSMALLbCAPITAL LETTER DJERVbcSMALL
  bCAPITAL LETTER MONOGRAPH UKbdSMALLbCAPITAL LETTER BROAD OMEGAbdSMALLbCAPITAL LETTER NEUTRAL YER
  bdSMALLbbCAPITAL LETTER YERU WITH BACKbfSMALLbCAPITAL LETTER IOTIFIED YATbdSMALL
  bCAPITAL LETTER REVERSED YUbdSMALLbCAPITAL LETTER IOTIFIED AbdSMALL
  bCAPITAL LETTER CLOSED LITTLE YUSbeSMALLbbCAPITAL LETTER BLENDEDbdSMALL
  bbCAPITAL LETTER IOTIFIED CLOSED LITTLEbfSMALLbCAPITAL LETTER YNbcSMALL
  bCAPITAL LETTER REVERSED TSEbdSMALLbCAPITAL LETTER SOFT DEbdSMALLbCAPITAL LETTER SOFT ELbdSMALL
  bCAPITAL LETTER SOFT EMbdSMALLbCAPITAL LETTER MONOCULAR ObdSMALLbbCAPITAL LETTER BINOCULARbdSMALL
  bbCAPITAL LETTER DOUBLE MONOCULARbeSMALLbbLETTER MULTIOCULARaCOMBINING CYRILLIC VZMET
  cTEN MILLIONS SIGNccHUNDREDccTHOUSANDaSLAVONIC ASTERISKaCOMBINING CYRILLIC LETTER UKRAINIAN IEdI
  dYIdUdHARD SIGNdYERUdSOFT SIGNdOMEGAcKAVYKAcPAYEROKaCYRILLIC KAVYKAbPAYEROKbCAPITAL LETTER DWE
  bcSMALLbCAPITAL LETTER DZWEbcSMALLbCAPITAL LETTER ZHWEbcSMALLbCAPITAL LETTER CCHEbcSMALL
  bCAPITAL LETTER DZZEbcSMALLbCAPITAL LETTER TE WITH MIDDLE HOOKbfSMALLbCAPITAL LETTER TWEbcSMALL
  bCAPITAL LETTER TSWEbcSMALLbCAPITAL LETTER TSSEbcSMALLbCAPITAL LETTER TCHEbcSMALL
  bCAPITAL LETTER HWEbcSMALLbCAPITAL LETTER SHWEbcSMALLbCAPITAL LETTER DOUBLE ObdSMALL
  bbCAPITAL LETTER CROSSEDbdSMALLaMODIFIER LETTER CYRILLIC HARD SIGNdbSOFT
  aCOMBINING CYRILLIC LETTER EFdIOTIFIED EaBAMUM LETTER AcKAcUcKUcEEcREEcTAEcOcNYIcIcLAcPAcRIIcRIEE
  cLEEEEcMEEEEcTAAcNDAAcNJAEMcMcSUUcMUcSHIIcSIcSHEUXcSEUXcKYEEcKETcNUAEcNUcNJUAEcYOQcSHUcYUQcYAcNSHA
  cKEUXcPEUXcNJEEcNTEEcPUEcWUEcPEEcFEEcRUcLUcMIcNIcREUXcRAEcKENcNGKWAENcNGGAcNGAcSHOcPUAEcFUcFOMcWA
  cNAcLIcPIcLOQcKOcMBENcRENcMENcMAcTIcKIcMOcMBAAcTETcKPAcTENcNTUUcSAMBAcFAAMAEcKOVUUcKOGHOM
  bCOMBINING MARK KOQNDONdTUKWENTISbNJAEMLIbFULL STOPbCOLONbCOMMAbSEMICOLONbQUESTION MARK
  +A700aMODIFIER LETTER CHINESE TONE YIN PINGebYANGeYIN SHANGebYANGeYIN QUebYANGeYIN RUebYANG
  cEXTRA-HIGH DOTTED TONE BARcdHIGHcdMIDcdLOWcdEXTRA-LOWccEXTRA-HIGH DOTTED LEFT-STEMceHIGHceMID
  ceLOWceEXTRA-LOWcdEXTRA-HIGHcdHIGHcdMIDcdLOWcdEXTRA-LOWcbDOT VERTICALdSLASHdHORIZONTAL BAR
  cLOWER RIGHT CORNER ANGLEcRAISED UP ARROWdbDOWNdEXCLAMATION MARKdcINVERTEDcdLOW
  cSTRESS AND HIGH TONEebLOWaLATIN CAPITAL LETTER EGYPTOLOGICAL ALEFbdSMALL
  bCAPITAL LETTER EGYPTOLOGICAL AINbdSMALLbCAPITAL LETTER HENGbcSMALLbCAPITAL LETTER TZbcSMALL
  bCAPITAL LETTER TRESILLObcSMALLbCAPITAL LETTER CUATRILLObcSMALL
  bCAPITAL LETTER CUATRILLO WITH COMMAbeSMALLbLETTER SMALL CAPITAL FeSbCAPITAL LETTER AAbcSMALL
  bCAPITAL LETTER AObcSMALLbCAPITAL LETTER AUbcSMALLbCAPITAL LETTER AVbcSMALL
  bCAPITAL LETTER AV WITH HORIZONTAL BARbfSMALLbCAPITAL LETTER AYbcSMALL
  bCAPITAL LETTER REVERSED C WITH DOTbfSMALLbCAPITAL LETTER K WITH STROKEbeSMALL
  bbCAPITAL LETTER K WITH DIAGONALbfSMALLbcCAPITAL LETTER K WITH STROKE ANDbhSMALL
  bCAPITAL LETTER BROKEN LbdSMALLbCAPITAL LETTER L WITH HIGH STROKEbfSMALL
  bCAPITAL LETTER O WITH LONG STROKE OVERLAYbgSMALLbCAPITAL LETTER O WITH LOOPbeSMALL
  bCAPITAL LETTER OObcSMALLbCAPITAL LETTER P WITH STROKE THROUGH DESCENDERbgSMALL
  bCAPITAL LETTER P WITH FLOURISHbeSMALLbCAPITAL LETTER P WITH SQUIRREL TAILbfSMALL
  bCAPITAL LETTER Q WITH STROKE THROUGH DESCENDERbgSMALLbCAPITAL LETTER Q WITH DIAGONAL STROKE
  bfSMALLbCAPITAL LETTER R ROTUNDAbdSMALLbbCAPITAL LETTER RUMbdSMALL
  bCAPITAL LETTER V WITH DIAGONAL STROKEbfSMALLbCAPITAL LETTER VYbcSMALLbCAPITAL LETTER VISIGOTHIC Z
  bdSMALLbCAPITAL LETTER THORN WITH STROKEbeSMALLbCAPITAL LETTER THORN WITH STROKE THROUGH DESCENDER
  bgSMALLbCAPITAL LETTER VENDbcSMALLbCAPITAL LETTER ETbcSMALLbCAPITAL LETTER ISbcSMALL
  bCAPITAL LETTER CONbcSMALLaMODIFIER LETTER USaLATIN SMALL LETTER DUMdLUMdMUMdNUMdRUM
  bbLETTER SMALL CAPITALbSMALL LETTER TUMdUMbCAPITAL LETTER INSULAR DbdSMALL
  bCAPITAL LETTER INSULAR FbdSMALLbCAPITAL LETTER INSULAR GdcTURNEDbeSMALLbCAPITAL LETTER TURNED L
  bdSMALLbCAPITAL LETTER INSULAR RbdSMALLbCAPITAL LETTER INSULAR SbdSMALLbCAPITAL LETTER INSULAR T
  bdSMALLaMODIFIER LETTER LOW CIRCUMFLEX ACCENTcCOLONcSHORT EQUALS SIGN
  aLATIN CAPITAL LETTER SALTILLObcSMALLbCAPITAL LETTER TURNED H
  bSMALL LETTER L WITH RETROFLEX HOOK AND BELTbLETTER SINOLOGICAL DOT
  bCAPITAL LETTER N WITH DESCENDERbeSMALLbCAPITAL LETTER C WITH BARbeSMALLfPALATAL HOOKddH
  bCAPITAL LETTER B WITH FLOURISHbeSMALLbCAPITAL LETTER F WITH STROKEbeSMALL
  bCAPITAL LETTER VOLAPUK AEbdSMALLbCAPITAL LETTER VOLAPUK OEbdSMALLbCAPITAL LETTER VOLAPUK UE
  bdSMALLbCAPITAL LETTER G WITH OBLIQUE STROKEbfSMALLbdCAPITAL LETTER KbfSMALLbdCAPITAL LETTER N
  bfSMALLbdCAPITAL LETTER RbfSMALLbdCAPITAL LETTER SbfSMALLbCAPITAL LETTER H WITH HOOK
  dREVERSED OPEN EdSCRIPT GdL WITH BELTdSMALL CAPITAL IbLETTER SMALL CAPITAL Q
  bCAPITAL LETTER TURNED KeTdJ WITH CROSSED-TAILdCHIdBETAbcSMALLbCAPITAL LETTER OMEGAbcSMALL
  bCAPITAL LETTER U WITH STROKEbeSMALLbCAPITAL LETTER GLOTTAL AbdSMALLbCAPITAL LETTER GLOTTAL I
  bdSMALLbCAPITAL LETTER GLOTTAL UbdSMALLbCAPITAL LETTER OLD POLISH ObeSMALL
  bCAPITAL LETTER ANGLICANA WbdSMALLbCAPITAL LETTER C WITH PALATAL HOOKdbS WITHdbZ WITH PALATAL
  dD WITH SHORT STROKE OVERLAYbgSMALLbeCAPITAL LETTER SbgSMALL+A7D0bCAPITAL LETTER CLOSED INSULAR G
  beSMALL+A7D3dDOUBLE THORN+A7D5eWYNNbCAPITAL LETTER MIDDLE SCOTS SbeSMALLbbCAPITAL LETTER SIGMOID
  bdSMALL+A7F2aMODIFIER LETTER CAPITAL CdFdQaLATIN CAPITAL LETTER REVERSED HALF HbeSMALL
  bEPIGRAPHIC LETTER SIDEWAYS IaMODIFIER LETTER CAPITAL H WITH STROKEcSMALL LIGATURE OE
  aLATIN LETTER SMALL CAPITAL TURNED MbEPIGRAPHIC LETTER REVERSED FePdINVERTED MdI LONGAdARCHAIC M
  aSYLOTI NAGRI LETTER AdIcSIGN DVISVARAcLETTER UdEdOcSIGN HASANTAcLETTER KOdKHOdGOdGHO
  cSIGN ANUSVARAcLETTER COdCHOdJOdJHOdTTOdTTHOdDDOdDDHOdTOdTHOdDOdDHOdNOdPOdPHOdBOdBHOdMOdROdLOdRRO
  dSOdHOcVOWEL SIGN AeIeUeEeOOcPOETRY MARK-1dMARK-2dMARK-3dMARK-4cSIGN ALTERNATE HASANTA
  +A830aNORTH INDIC FRACTION ONE QUARTEReHALFdTHREE QUARTERSdONE SIXTEENTHeEIGHTHdTHREE SIXTEENTHS
  cQUARTER MARKcbPLACEHOLDERcbRUPEEcbQUANTITY+A840aPHAGS-PA LETTER KAcKHAcGAcNGAcCAcCHAcJAcNYAcTA
  cTHAcDAcNAcPAcPHAcBAcMAcTSAcTSHAcDZAcWAcZHAcZAcSMALL AcYAcRAcLAcSHAcSAcHAcAcIcUcEcOcQAcXAcFAcGGA
  cEEbSUBJOINED LETTER WAdYAbLETTER TTAcTTHAcDDAcNNAcALTERNATE YAcVOICELESS SHAcVOICED HA
  cASPIRATED FAbSUBJOINED LETTER RAbcSUPERFIXEDbLETTER CANDRABINDUbSINGLE HEAD MARKbcDOUBLE
  bMARK SHADcbDOUBLE+A880aSAURASHTRA SIGN ANUSVARAcVISARGAbLETTER AcAAcIcIIcUcUUcVOCALIC RdRRdLdLLcE
  cEEcAIcOcOOcAUcKAcKHAcGAcGHAcNGAcCAcCHAcJAcJHAcNYAcTTAcTTHAcDDAcDDHAcNNAcTAcTHAcDAcDHAcNAcPAcPHA
  cBAcBHAcMAcYAcRAcLAcVAcSHAcSSAcSAcHAcLLAbCONSONANT SIGN HAARUbVOWEL SIGN AAdIdIIdUdUUdVOCALIC ReRR
  eLeLLdEdEEdAIdOdOOdAUbSIGN VIRAMAcCANDRABINDU+A8CEbDANDAbbDOUBLEbDIGIT ZEROcONEcTWOcTHREEcFOUR
  cFIVEcSIXcSEVENcEIGHTcNINE+A8E0aCOMBINING DEVANAGARI DIGIT ZEROdONEdTWOdTHREEdFOURdFIVEdSIXdSEVEN
  dEIGHTdNINEcLETTER AdUdKAdNAdPAdRAdVIcSIGN AVAGRAHAaDEVANAGARI SIGN SPACING CANDRABINDU
  cCANDRABINDU VIRAMAccDOUBLEcCANDRABINDU TWOdTHREEdAVAGRAHAcPUSHPIKAbGAP FILLERbCARETbHEADSTROKE
  bSIGN SIDDHAMbJAIN OMbLETTER AYbbVOWEL SIGNaKAYAH LI DIGIT ZEROdONEdTWOdTHREEdFOURdFIVEdSIXdSEVEN
  dEIGHTdNINEcLETTER KAdKHAdGAdNGAdSAdSHAdZAdNYAdTAdHTAdNAdPAdPHAdMAdDAdBAdRAdYAdLAdWAdTHAdHAdVAdCA
  dAdOEdIdOOcVOWEL UEdEdUdEEdOcTONE PLOPHUdCALYAePLOPHUcSIGN CWIdSHYAaREJANG LETTER KAcGAcNGAcTAcDA
  cNAcPAcBAcMAcCAcJAcNYAcSAcRAcLAcYAcWAcHAcMBAcNGGAcNDAcNYJAcAbVOWEL SIGN IdUdEdAIdOdAUdEUdEA
  bCONSONANT SIGN NGdNdRdHbVIRAMA+A95FbSECTION MARKaHANGUL CHOSEONG TIKEUT-MIEUMcTIKEUT-PIEUP
  cTIKEUT-SIOScTIKEUT-CIEUCcRIEUL-KIYEOKcRIEUL-SSANGKIYEOKcRIEUL-TIKEUTcRIEUL-SSANGTIKEUT
  cRIEUL-MIEUMcRIEUL-PIEUPcRIEUL-SSANGPIEUPcRIEUL-KAPYEOUNPIEUPcRIEUL-SIOScRIEUL-CIEUCcRIEUL-KHIEUKH
  cMIEUM-KIYEOKcMIEUM-TIKEUTcMIEUM-SIOScPIEUP-SIOS-THIEUTHcPIEUP-KHIEUKHcPIEUP-HIEUHcSSANGSIOS-PIEUP
  cIEUNG-RIEULcIEUNG-HIEUHcSSANGCIEUC-HIEUHcSSANGTHIEUTHcPHIEUPH-HIEUHcHIEUH-SIOScSSANGYEORINHIEUH
  +A980aJAVANESE SIGN PANYANGGAcCECAKcLAYARcWIGNYANbLETTER AcI KAWId+A987cIIcUcPA CEREKcNGA LELET
  eRASWADIcEcAIcOcKAdSASAKdMURDAcGAdMURDAcNGAcCAdMURDAcJAcNYA MURDAcJA MAHAPRANAcNYAcTTAdMAHAPRANA
  cDDAdMAHAPRANAcNA MURDAcTAdMURDAcDAdMAHAPRANAcNAcPAdMURDAcBAdMURDAcMAcYAcRAdAGUNGcLAcWAcSA MURDA
  dMAHAPRANAd+A9B2cHAbSIGN CECAK TELUbVOWEL SIGN TARUNGdTOLONGdWULUeMELIKdSUKUeMENDUTdTALING
  dDIRGA MUREdPEPETbCONSONANT SIGN KERETdPENGKALdCAKRAbPANGKONbLEFT RERENGGANbbRIGHTbPADA ANDAP
  cMADYAcLUHURcWINDUcPANGKATcLINGSAcLUNGSIcADEGdADEGcPISELEHbcTURNED+A9CFbPANGRANGKEPbDIGIT ZEROcONE
  cTWOcTHREEcFOURcFIVEcSIXcSEVENcEIGHTcNINE+A9DEbPADA TIRTA TUMETEScISEN-ISEN
  aMYANMAR LETTER SHAN GHAdCHAdJHAdNNAdBHAbSIGN SHAN SAWbMODIFIER LETTER SHAN REDUPLICATION
  bLETTER TAI LAING NYAeFAeGAeGHAeJAeJHAeDDAeDDHAeNNAbTAI LAING DIGIT ZEROeONEeTWOeTHREEeFOUReFIVE
  eSIXeSEVENeEIGHTeNINEbLETTER TAI LAING LLAeDAeDHAeBAeBHA+AA00aCHAM LETTER AcIcUcEcAIcOcKAcKHAcGA
  cGHAcNGUEcNGAcCHAcCHHAcJAcJHAcNHUEcNHAcNHJAcTAcTHAcDAcDHAcNUEcNAcDDAcPAcPPAcPHAcBAcBHAcMUEcMAcBBA
  cYAcRAcLAcVAcSSAcSAcHAbVOWEL SIGN AAdIdIIdEIdUdOEdOdAIdAUdUEbCONSONANT SIGN YAdRAdLAdWA
  +AA40bLETTER FINAL KdGdNGbcCONSONANT SIGNbLETTER FINAL CHdTdNdPdYdRdLdSSbCONSONANT SIGN FINAL MeH
  +AA50bDIGIT ZEROcONEcTWOcTHREEcFOURcFIVEcSIXcSEVENcEIGHTcNINE+AA5CbPUNCTUATION SPIRALcDANDA
  cbDOUBLEcbTRIPLEaMYANMAR LETTER KHAMTI GAdCAdCHAdJAdJHAdNYAdTTAdTTHAdDDAdDDHAdDHAdNAdSAdHAdHHAdFA
  bMODIFIER LETTER KHAMTI REDUPLICATIONbLETTER KHAMTI XAdZAdRAbLOGOGRAM KHAMTI OAYdQNdHM
  bSYMBOL AITON EXCLAMATIONdONEdTWObLETTER AITON RAbSIGN PAO KAREN TONEcTAI LAING TONE-2eTONE-5
  bLETTER SHWE PALAUNG CHAeSHAaTAI VIET LETTER LOW KOdbHIGHdLOW KHOdbHIGHdLOW KHHOdbHIGHdLOW GO
  dbHIGHdLOW NGOdbHIGHdLOW COdbHIGHdLOW CHOdbHIGHdLOW SOdbHIGHdLOW NYOdbHIGHdLOW DOdbHIGHdLOW TO
  dbHIGHdLOW THOdbHIGHdLOW NOdbHIGHdLOW BOdbHIGHdLOW POdbHIGHdLOW PHOdbHIGHdLOW FOdbHIGHdLOW MO
  dbHIGHdLOW YOdbHIGHdLOW ROdbHIGHdLOW LOdbHIGHdLOW VOdbHIGHdLOW HOdbHIGHdLOW OdbHIGHcMAI KANG
  cVOWEL AAdIdUEdUdEdOcMAI KHITcVOWEL IAdUEAdUAdAUEdAYdANdAMcTONE MAI EKeNUENGeTHOeSONG
  +AADBcSYMBOL KONdNUENGdSAMdHO HOIdKOI KOIaMEETEI MAYEK LETTER EdOdCHAdNYAdTTAdTTHAdDDAdDDHAdNNA
  dSHAdSSAcVOWEL SIGN IIeUUeAAIeAUeAAUcCHEIKHANcAHANG KHUDAMcANJIcSYLLABLE REPETITION MARKccWORD
  cVOWEL SIGN VISARGAcVIRAMA+AB01aETHIOPIC SYLLABLE TTHUcTTHIcTTHAAcTTHEEcTTHEcTTHO+AB09cDDHUcDDHI
  cDDHAAcDDHEEcDDHEcDDHO+AB11cDZUcDZIcDZAAcDZEEcDZEcDZO+AB20cCCHHAcCCHHUcCCHHIcCCHHAAcCCHHEEcCCHHE
  cCCHHO+AB28cBBAcBBUcBBIcBBAAcBBEEcBBEcBBO+AB30aLATIN SMALL LETTER BARRED ALPHAdA REVERSED-SCHWA
  dBLACKLETTER EdbBARREDdE WITH FLOURISHdLENIS FdSCRIPT G WITH CROSSED-TAILdL WITH INVERTED LAZY S
  fDOUBLE MIDDLE TILDEfMIDDLE RINGdM WITH CROSSED-TAILdcNdcENGdBLACKLETTER OfWITH STROKEddOPEN
  dINVERTED OEdTURNED OE WITH STROKEgbHORIZONTALeO OPEN-OgWITH STROKEdSTIRRUP R
  bLETTER SMALL CAPITAL R WITH RIGHT LEGbSMALL LETTER R WITHOUT HANDLEdDOUBLE RdR WITH CROSSED-TAIL
  ddDOUBLEdSCRIPT RfWITH RINGdBASELINE ESHdU WITH SHORT RIGHT LEGeeBARdUIdbTURNEDdU WITH LEFT HOOK
  dCHIeWITH LOW RIGHT RINGgLEFT SERIFdX WITH LOW RIGHT RINGfLONG LEFT LEGiAND LOW RIGHT RING
  iWITH SERIFdY WITH SHORT RIGHT LEGaMODIFIER BREVE WITH INVERTED BREVEbLETTER SMALL HENG
  dL WITH INVERTED LAZY SfMIDDLE TILDEdU WITH LEFT HOOKaLATIN SMALL LETTER SAKHA YATdIOTIFIED E
  dOPEN OEdUOdINVERTED ALPHAaGREEK LETTER SMALL CAPITAL OMEGA
  aLATIN SMALL LETTER DZ DIGRAPH WITH RETROFLEX HOOKdeTSdTURNED R WITH MIDDLE TILDE
  aMODIFIER LETTER SMALL TURNED WcLEFT TACKcbRIGHT+AB70aCHEROKEE SMALL LETTER AdEdIdOdUdVdGAdKAdGE
  dGIdGOdGUdGVdHAdHEdHIdHOdHUdHVdLAdLEdLIdLOdLUdLVdMAdMEdMIdMOdMUdNAdHNAdNAHdNEdNIdNOdNUdNVdQUAdQUE
  dQUIdQUOdQUUdQUVdSAdSdSEdSIdSOdSUdSVdDAdTAdDEdTEdDIdTIdDOdDUdDVdDLAdTLAdTLEdTLIdTLOdTLUdTLVdTSA
  dTSEdTSIdTSOdTSUdTSVdWAdWEdWIdWOdWUdWVdYAaMEETEI MAYEK LETTER KOKdSAMdLAIdMITdPAdNAdCHILdTILdKHOU
  dNGOUdTHOUdWAIdYANGdHUKdUNdIdPHAMdATIYAdGOKdJHAMdRAIdBAdJILdDILdGHOUdDHOUdBHAMdKOK LONSUMdbLAI
  dbMITdbPAdbNAdbTILdbNGOUdbIcVOWEL SIGN ONAPeINAPeANAPeYENAPeSOUNAPeUNAPeCHEINAPeNUNGcCHEIKHEI
  cLUM IYEKcbAPUN+ABF0cDIGIT ZEROdONEdTWOdTHREEdFOURdFIVEdSIXdSEVENdEIGHTdNINE
  +D7B0aHANGUL JUNGSEONG O-YEOcO-O-IcYO-AcYO-AEcYO-EOcU-YEOcU-I-IcYU-AEcYU-OcEU-AcEU-EOcEU-EcEU-O
  cI-YA-OcI-YAEcI-YEOcI-YEcI-O-IcI-YOcI-YUcI-IcARAEA-AcARAEA-E+D7CBbJONGSEONG NIEUN-RIEUL
  cNIEUN-CHIEUCHcSSANGTIKEUTcSSANGTIKEUT-PIEUPcTIKEUT-PIEUPcTIKEUT-SIOScTIKEUT-SIOS-KIYEOK
  cTIKEUT-CIEUCcTIKEUT-CHIEUCHcTIKEUT-THIEUTHcRIEUL-SSANGKIYEOKcRIEUL-KIYEOK-HIEUH
  cSSANGRIEUL-KHIEUKHcRIEUL-MIEUM-HIEUHcRIEUL-PIEUP-TIKEUTcRIEUL-PIEUP-PHIEUPHcRIEUL-YESIEUNG
  cRIEUL-YEORINHIEUH-HIEUHcKAPYEOUNRIEULcMIEUM-NIEUNcMIEUM-SSANGNIEUNcSSANGMIEUMcMIEUM-PIEUP-SIOS
  cMIEUM-CIEUCcPIEUP-TIKEUTcPIEUP-RIEUL-PHIEUPHcPIEUP-MIEUMcSSANGPIEUPcPIEUP-SIOS-TIKEUTcPIEUP-CIEUC
  cPIEUP-CHIEUCHcSIOS-MIEUMcSIOS-KAPYEOUNPIEUPcSSANGSIOS-KIYEOKcSSANGSIOS-TIKEUTcSIOS-PANSIOS
  cSIOS-CIEUCcSIOS-CHIEUCHcSIOS-THIEUTHcSIOS-HIEUHcPANSIOS-PIEUPcPANSIOS-KAPYEOUNPIEUP
  cYESIEUNG-MIEUMcYESIEUNG-HIEUHcCIEUC-PIEUPcCIEUC-SSANGPIEUPcSSANGCIEUCcPHIEUPH-SIOS
  cPHIEUPH-THIEUTH+FB00aLATIN SMALL LIGATURE FFdFIdFLdFFIdFFLdLONG S TdST
  +FB13aARMENIAN SMALL LIGATURE MEN NOWeECHeINIdVEW NOWdMEN XEH+FB1DaHEBREW LETTER YOD WITH HIRIQ
  bPOINT JUDEO-SPANISH VARIKAbLIGATURE YIDDISH YOD YOD PATAHbLETTER ALTERNATIVE AYINcWIDE ALEFdDALET
  dHEdKAFdLAMEDdFINAL MEMdRESHdTAVcALTERNATIVE PLUS SIGNcSHIN WITH SHIN DOTebSINebDAGESH AND SHIN
  gbSINcALEF WITH PATAHeQAMATSeMAPIQcBET WITH DAGESHccGIMELccDALETcHE WITH MAPIQcVAV WITH DAGESH
  ccZAYIN+FB38ccTETccYODccFINAL KAFcd+FB3CccLAMED+FB3EccMEM+FB40ccNUNccSAMEKH+FB43ccFINAL PEcd
  +FB46ccTSADIccQOFccRESHccSHINccTAVcVAV WITH HOLAMcBET WITH RAFEccKAFccPEbLIGATURE ALEF LAMED
  aARABIC LETTER ALEF WASLA ISOLATED FORMebFINALcbBEEH ISOLATEDdbFINALdbINITIALdbMEDIAL
  cbPEH ISOLATEDdbFINALdbINITIALdbMEDIALcbBEHEH ISOLATEDdbFINALdbINITIALdbMEDIALcbTTEHEH ISOLATED
  dbFINALdbINITIALdbMEDIALcbTEHEH ISOLATEDdbFINALdbINITIALdbMEDIALcbTTEH ISOLATEDdbFINALdbINITIAL
  dbMEDIALcbVEH ISOLATEDdbFINALdbINITIALdbMEDIALcbPEHEH ISOLATEDdbFINALdbINITIALdbMEDIAL
  cbDYEH ISOLATEDdbFINALdbINITIALdbMEDIALcbNYEH ISOLATEDdbFINALdbINITIALdbMEDIALcbTCHEH ISOLATED
  dbFINALdbINITIALdbMEDIALcbTCHEHEH ISOLATEDdbFINALdbINITIALdbMEDIALcbDDAHAL ISOLATEDdbFINAL
  cbDAHAL ISOLATEDdbFINALcbDUL ISOLATEDdbFINALcbDDAL ISOLATEDdbFINALcbJEH ISOLATEDdbFINAL
  cbRREH ISOLATEDdbFINALcbKEHEH ISOLATEDdbFINALdbINITIALdbMEDIALcbGAF ISOLATEDdbFINALdbINITIAL
  dbMEDIALcbGUEH ISOLATEDdbFINALdbINITIALdbMEDIALcbNGOEH ISOLATEDdbFINALdbINITIALdbMEDIAL
  cbNOON GHUNNA ISOLATEDebFINALcbRNOON ISOLATEDdbFINALdbINITIALdbMEDIALcbHEH WITH YEH ABOVE ISOLATED
  gbFINALdbGOAL ISOLATEDebFINALebINITIALebMEDIALdbDOACHASHMEE ISOLATEDebFINALebINITIALebMEDIAL
  cbYEH BARREE ISOLATEDebFINALebWITH HAMZA ABOVE ISOLATEDhbFINALbSYMBOL DOT ABOVEdBELOW
  cTWO DOTS ABOVEeBELOWcTHREE DOTS ABOVEeBELOWePOINTING DOWNWARDS ABOVEgBELOWcFOUR DOTS ABOVEeBELOW
  cbDOUBLE VERTICAL BARcTWO DOTS VERTICALLY ABOVEfBELOWcRINGcSMALL TAH ABOVEeBELOWcWASLA ABOVE
  +FBD3bLETTER NG ISOLATED FORMdbFINALdbINITIALdbMEDIALcbU ISOLATEDdbFINALcbOE ISOLATEDdbFINAL
  cbYU ISOLATEDdbFINALcbU WITH HAMZA ABOVE ISOLATEDccVEdbFINALcbKIRGHIZ OE ISOLATEDebFINAL
  dbYU ISOLATEDebFINALcbE ISOLATEDdbFINALdbINITIALdbMEDIAL
  cbUIGHUR KAZAKH KIRGHIZ ALEF MAKSURA INITIALhbMEDIAL
  bbLIGATURE YEH WITH HAMZA ABOVE WITH ALEF ISOLATEDibFINALhbAE ISOLATEDibFINALhbWAW ISOLATEDibFINAL
  hbU ISOLATEDibFINALhbOE ISOLATEDibFINALhbYU ISOLATEDibFINALhbE ISOLATEDibFINALibINITIAL
  cbUIGHUR KIRGHIZ YEH WITH HAMZA ABOVE WITH ALEF MAKSURA ISOLATEDlbFINALlbINITIAL
  bbLETTER FARSI YEH ISOLATEDebFINALebINITIALebMEDIAL
  bbLIGATURE YEH WITH HAMZA ABOVE WITH JEEM ISOLATEDhcHAHhcMEEMhcALEF MAKSURAhcYEHccBEH WITH JEEM
  ecHAHecKHAHecMEEMecALEF MAKSURAecYEHccTEH WITH JEEMecHAHecKHAHecMEEMecALEF MAKSURAecYEH
  ccTHEH WITH JEEMecMEEMecALEF MAKSURAecYEHccJEEM WITH HAHecMEEMccHAH WITH JEEMecMEEM
  ccKHAH WITH JEEMecHAHecMEEMccSEEN WITH JEEMecHAHecKHAHecMEEMccSAD WITH HAHecMEEMccDAD WITH JEEM
  ecHAHecKHAHecMEEMccTAH WITH HAHecMEEMceZAHccAIN WITH JEEMecMEEMccGHAIN WITH JEEMecMEEM
  ccFEH WITH JEEMecHAHecKHAHecMEEMecALEF MAKSURAecYEHccQAF WITH HAHecMEEMecALEF MAKSURAecYEH
  ccKAF WITH ALEFecJEEMecHAHecKHAHecLAMecMEEMecALEF MAKSURAecYEHccLAM WITH JEEMecHAHecKHAHecMEEM
  ecALEF MAKSURAecYEHccMEEM WITH JEEMecHAHecKHAHecMEEMecALEF MAKSURAecYEHccNOON WITH JEEMecHAHecKHAH
  ecMEEMecALEF MAKSURAecYEHccHEH WITH JEEMecMEEMecALEF MAKSURAecYEHccYEH WITH JEEMecHAHecKHAHecMEEM
  ecALEF MAKSURAecYEHccTHAL WITH SUPERSCRIPT ALEFcfREHcfALEF MAKSURAccSHADDA WITH DAMMATANecKASRATAN
  ecFATHAecDAMMAecKASRAecSUPERSCRIPT ALEFcbYEH WITH HAMZA ABOVE WITH REH FINALhcZAINhcMEEMhcNOON
  hcALEF MAKSURAhcYEHccBEH WITH REHecZAINecMEEMecNOONecALEF MAKSURAecYEHccTEH WITH REHecZAINecMEEM
  ecNOONecALEF MAKSURAecYEHccTHEH WITH REHecZAINecMEEMecNOONecALEF MAKSURAecYEH
  ccFEH WITH ALEF MAKSURAecYEHccQAF WITH ALEF MAKSURAecYEHccKAF WITH ALEFecLAMecMEEMecALEF MAKSURA
  ecYEHccLAM WITH MEEMecALEF MAKSURAecYEHccMEEM WITH ALEFecMEEMccNOON WITH REHecZAINecMEEMecNOON
  ecALEF MAKSURAecYEHccALEF MAKSURA WITH SUPERSCRIPT ALEFccYEH WITH REHecZAINecMEEMecNOON
  ecALEF MAKSURAecYEHebHAMZA ABOVE WITH JEEM INITIALhcHAHhcKHAHhcMEEMhcHEHccBEH WITH JEEMecHAHecKHAH
  ecMEEMecHEHccTEH WITH JEEMecHAHecKHAHecMEEMecHEHccTHEH WITH MEEMccJEEM WITH HAHecMEEM
  ccHAH WITH JEEMecMEEMccKHAH WITH JEEMecMEEMccSEEN WITH JEEMecHAHecKHAHecMEEMccSAD WITH HAHecKHAH
  ecMEEMccDAD WITH JEEMecHAHecKHAHecMEEMccTAH WITH HAHccZAH WITH MEEMccAIN WITH JEEMecMEEM
  ccGHAIN WITH JEEMecMEEMccFEH WITH JEEMecHAHecKHAHecMEEMccQAF WITH HAHecMEEMccKAF WITH JEEMecHAH
  ecKHAHecLAMecMEEMccLAM WITH JEEMecHAHecKHAHecMEEMecHEHccMEEM WITH JEEMecHAHecKHAHecMEEM
  ccNOON WITH JEEMecHAHecKHAHecMEEMecHEHccHEH WITH JEEMecMEEMecSUPERSCRIPT ALEFccYEH WITH JEEMecHAH
  ecKHAHecMEEMecHEHebHAMZA ABOVE WITH MEEM MEDIALhcHEHccBEH WITH MEEMecHEHccTEH WITH MEEMecHEH
  ccTHEH WITH MEEMecHEHccSEEN WITH MEEMecHEHccSHEEN WITH MEEMecHEHccKAF WITH LAMecMEEMceLAMceNOON
  ecHEHccYEH WITH MEEMecHEHccSHADDA WITH FATHAecDAMMAecKASRAcbTAH WITH ALEF MAKSURA ISOLATEDecYEH
  ccAIN WITH ALEF MAKSURAecYEHccGHAIN WITH ALEF MAKSURAecYEHccSEEN WITH ALEF MAKSURAecYEH
  ccSHEEN WITH ALEF MAKSURAecYEHccHAH WITH ALEF MAKSURAecYEHccJEEM WITH ALEF MAKSURAecYEH
  ccKHAH WITH ALEF MAKSURAecYEHccSAD WITH ALEF MAKSURAecYEHccDAD WITH ALEF MAKSURAecYEH
  ccSHEEN WITH JEEMecHAHecKHAHecMEEMecREHceSEENceSADceDADcbTAH WITH ALEF MAKSURA FINALecYEH
  ccAIN WITH ALEF MAKSURAecYEHccGHAIN WITH ALEF MAKSURAecYEHccSEEN WITH ALEF MAKSURAecYEH
  ccSHEEN WITH ALEF MAKSURAecYEHccHAH WITH ALEF MAKSURAecYEHccJEEM WITH ALEF MAKSURAecYEH
  ccKHAH WITH ALEF MAKSURAecYEHccSAD WITH ALEF MAKSURAecYEHccDAD WITH ALEF MAKSURAecYEH
  ccSHEEN WITH JEEMecHAHecKHAHecMEEMecREHceSEENceSADceDADcbSHEEN WITH JEEM INITIALecHAHecKHAHecMEEM
  ccSEEN WITH HEHceSHEENccTAH WITH MEEMcbSEEN WITH JEEM MEDIALecHAHecKHAHccSHEEN WITH JEEMecHAH
  ecKHAHccTAH WITH MEEMceZAHcbALEF WITH FATHATAN FINALfbISOLATEDaORNATE LEFT PARENTHESISbbRIGHT
  aARABIC LIGATURE RAHIMAHU ALLAAHcRADI ALLAAHU ANHeANHAAeANHUMeANHUMAAeANHUNNA
  cSALLALLAAHU ALAYHI WA-AALIHcALAYHI AS-SALAAMcbALAYHIMcbALAYHIMAAcALAYHI AS-SALAATU WAS-SALAAM
  cQUDDISA SIRRAHcSALLALLAHU ALAYHI WAAALIHEE WA-SALLAMcALAYHAA AS-SALAAMcTABAARAKA WA-TAAALAA
  cRAHIMAHUM ALLAAHcTEH WITH JEEM WITH MEEM INITIAL FORMebHAH WITH JEEM FINALhbINITIALgcMEEMeeKHAH
  ecMEEM WITH JEEMgcHAHgcKHAHcbJEEM WITH MEEM WITH HAH FINALhbINITIALcbHAH WITH MEEM WITH YEH FINAL
  gcALEF MAKSURAcbSEEN WITH HAH WITH JEEM INITIALecJEEM WITH HAHgbALEF MAKSURA FINALecMEEM WITH HAH
  hbINITIALgcJEEMgbMEEM FINALhbINITIALcbSAD WITH HAH WITH HAH FINALhbINITIALebMEEM WITH MEEM FINAL
  ceSHEEN WITH HAHhbINITIALebJEEM WITH YEH FINALecMEEM WITH KHAHhbINITIALgbMEEM FINALhbINITIAL
  cbDAD WITH HAH WITH ALEF MAKSURA FINALecKHAH WITH MEEMhbINITIALcbTAH WITH MEEM WITH HAH FINAL
  hbINITIALgcMEEMgbYEH FINALccAIN WITH JEEM WITH MEEMeeMEEMhbINITIALgbALEF MAKSURA FINAL
  ccGHAIN WITH MEEM WITH MEEMgcYEHgcALEF MAKSURAccFEH WITH KHAH WITH MEEMhbINITIAL
  cbQAF WITH MEEM WITH HAH FINALgcMEEMceLAM WITH HAHgcYEHgcALEF MAKSURAebJEEM WITH JEEM INITIAL
  hbFINALecKHAH WITH MEEMhbINITIALebMEEM WITH HAH FINALhbINITIALccMEEM WITH HAH WITH JEEMgcMEEM
  gbYEH FINALebJEEM WITH HAH INITIALgcMEEMecKHAH WITH JEEMgcMEEM+FD92ecJEEM WITH KHAH
  ccHEH WITH MEEM WITH JEEMgcMEEMceNOON WITH HAHgbALEF MAKSURA FINALecJEEM WITH MEEMhbINITIAL
  gbALEF MAKSURA FINALecMEEM WITH YEHgcALEF MAKSURAccYEH WITH MEEM WITH MEEMhbINITIAL
  cbBEH WITH KHAH WITH YEH FINALceTEH WITH JEEMgcALEF MAKSURAecKHAH WITH YEHgcALEF MAKSURA
  ecMEEM WITH YEHgcALEF MAKSURAccJEEM WITH MEEM WITH YEHecHAH WITH ALEF MAKSURAefMEEM
  cfSEEN WITH KHAHccSAD WITH HAH WITH YEHcgSHEENcgDADceLAM WITH JEEMeeMEEMceYEH WITH HAHeeJEEMeeMEEM
  cgMEEMcgQAFceNOON WITH HAHcbQAF WITH MEEM WITH HAH INITIALccLAM WITH HAH WITH MEEM
  cbAIN WITH MEEM WITH YEH FINALcgKAFcbNOON WITH JEEM WITH HAH INITIAL
  cbMEEM WITH KHAH WITH YEH FINALcbLAM WITH JEEM WITH MEEM INITIALcbKAF WITH MEEM WITH MEEM FINAL
  ceLAM WITH JEEMccNOON WITH JEEM WITH HAHccJEEM WITH HAH WITH YEHceHAH WITH JEEMcgMEEM
  ceFEH WITH MEEMceBEH WITH HAHcbKAF WITH MEEM WITH MEEM INITIALceAIN WITH JEEMceSAD WITH MEEM
  cbSEEN WITH KHAH WITH YEH FINALceNOON WITH JEEM+FDCFcSALAAMUHU ALAYNAA
  +FDF0cSALLA USED AS KORANIC STOP SIGN ISOLATED FORMchQALAccALLAHccAKBARccMOHAMMADccSALAMccRASOUL
  ccALAYHEccWASALLAMccSALLAcSALLALLAHOU ALAYHE WASALLAMcJALLAJALALOUHOUaRIAL SIGN
  aARABIC LIGATURE BISMILLAH AR-RAHMAN AR-RAHEEMcSUBHAANAHU WA TAAALAAcAZZA WA JALL
  +FE10aPRESENTATION FORM FOR VERTICAL COMMAebIDEOGRAPHICfFULL STOPeCOLONeSEMICOLONeEXCLAMATION MARK
  ebQUESTIONeLEFT WHITE LENTICULAR BRACKETeRIGHT WHITE LENTICULAR BRAKCETeHORIZONTAL ELLIPSIS
  +FE20aCOMBINING LIGATURE LEFT HALFcbRIGHTbbDOUBLE TILDE LEFTdbRIGHTbbMACRON LEFTcbRIGHT
  bCONJOINING MACRONbLIGATURE LEFT HALF BELOWccRIGHTbcTILDE LEFTccRIGHTbcMACRON LEFTccRIGHT
  bbCONJOINING MACRONbCYRILLIC TITLO LEFT HALFdbRIGHTaPRESENTATION FORM FOR VERTICAL TWO DOT LEADER
  eEM DASHebENeLOW LINEecWAVYeLEFT PARENTHESISebRIGHTeLEFT CURLY BRACKETecRIGHTebLEFT TORTOISE SHELL
  edRIGHTebLEFT BLACK LENTICULARedRIGHTebLEFT DOUBLE ANGLEedRIGHTecLEFTecRIGHTebLEFT CORNERecRIGHT
  ecLEFT WHITEedRIGHTaSESAME DOTacWHITEaPRESENTATION FORM FOR VERTICAL LEFT SQUARE BRACKETecRIGHT
  aDASHED OVERLINEabCENTRELINEabWAVYacDOUBLEaDASHED LOW LINEacCENTRELINEacWAVYaSMALL COMMA
  bbIDEOGRAPHICbFULL STOP+FE54bSEMICOLONbCOLONbQUESTION MARKbbEXCLAMATIONbEM DASHbLEFT PARENTHESIS
  bbRIGHTbLEFT CURLY BRACKETbcRIGHTbbLEFT TORTOISE SHELLbdRIGHTbNUMBER SIGNbAMPERSANDbASTERISK
  bPLUS SIGNbHYPHEN-MINUSbLESS-THAN SIGNbbGREATER-THANbbEQUALS+FE68bREVERSE SOLIDUSbDOLLAR SIGN
  bbPERCENTbCOMMERCIAL AT+FE70aARABIC FATHATAN ISOLATED FORMbTATWEEL WITH FATHATAN ABOVE
  bDAMMATAN ISOLATED FORMbTAIL FRAGMENTbKASRATAN ISOLATED FORM+FE76bcFATHAcbMEDIALbbDAMMA ISOLATED
  cbMEDIALbbKASRA ISOLATEDcbMEDIALbbSHADDA ISOLATEDcbMEDIALbbSUKUN ISOLATEDcbMEDIAL
  bbLETTER HAMZA ISOLATEDccALEF WITH MADDA ABOVEgbFINALebHAMZA ABOVE ISOLATEDgbFINAL
  cbWAW WITH HAMZA ABOVE ISOLATEDgbFINALcbALEF WITH HAMZA BELOW ISOLATEDgbFINAL
  cbYEH WITH HAMZA ABOVE ISOLATEDgbFINALgbINITIALgbMEDIALcbALEF ISOLATEDdbFINALcbBEH ISOLATEDdbFINAL
  dbINITIALdbMEDIALcbTEH MARBUTA ISOLATEDebFINALdbISOLATEDdbFINALdbINITIALdbMEDIALcbTHEH ISOLATED
  dbFINALdbINITIALdbMEDIALcbJEEM ISOLATEDdbFINALdbINITIALdbMEDIALcbHAH ISOLATEDdbFINALdbINITIAL
  dbMEDIALcbKHAH ISOLATEDdbFINALdbINITIALdbMEDIALcbDAL ISOLATEDdbFINALcbTHAL ISOLATEDdbFINAL
  cbREH ISOLATEDdbFINALcbZAIN ISOLATEDdbFINALcbSEEN ISOLATEDdbFINALdbINITIALdbMEDIALcbSHEEN ISOLATED
  dbFINALdbINITIALdbMEDIALcbSAD ISOLATEDdbFINALdbINITIALdbMEDIALcbDAD ISOLATEDdbFINALdbINITIAL
  dbMEDIALcbTAH ISOLATEDdbFINALdbINITIALdbMEDIALcbZAH ISOLATEDdbFINALdbINITIALdbMEDIALcbAIN ISOLATED
  dbFINALdbINITIALdbMEDIALcbGHAIN ISOLATEDdbFINALdbINITIALdbMEDIALcbFEH ISOLATEDdbFINALdbINITIAL
  dbMEDIALcbQAF ISOLATEDdbFINALdbINITIALdbMEDIALcbKAF ISOLATEDdbFINALdbINITIALdbMEDIALcbLAM ISOLATED
  dbFINALdbINITIALdbMEDIALcbMEEM ISOLATEDdbFINALdbINITIALdbMEDIALcbNOON ISOLATEDdbFINALdbINITIAL
  dbMEDIALcbHEH ISOLATEDdbFINALdbINITIALdbMEDIALcbWAW ISOLATEDdbFINALcbALEF MAKSURA ISOLATEDebFINAL
  cbYEH ISOLATEDdbFINALdbINITIALdbMEDIALbbLIGATURE LAM WITH ALEF WITH MADDA ABOVE ISOLATEDibFINAL
  gbHAMZA ABOVE ISOLATEDibFINALhbBELOW ISOLATEDibFINALfbISOLATEDfbFINAL
  +FEFFaZERO WIDTH NO-BREAK SPACE+FF01aFULLWIDTH EXCLAMATION MARKbbQUOTATIONbNUMBER SIGNbbDOLLAR
  bbPERCENTbAMPERSANDbAPOSTROPHEbLEFT PARENTHESISbbRIGHTbASTERISKbPLUS SIGNbCOMMAbHYPHEN-MINUS
  bFULL STOPbSOLIDUSbDIGIT ZEROcONEcTWOcTHREEcFOURcFIVEcSIXcSEVENcEIGHTcNINEbCOLONbSEMICOLON
  bLESS-THAN SIGNbbEQUALSbbGREATER-THANbQUESTION MARKbCOMMERCIAL ATbLATIN CAPITAL LETTER AeBeCeDeEeF
  eGeHeIeJeKeLeMeNeOePeQeReSeTeUeVeWeXeYeZbLEFT SQUARE BRACKETbREVERSE SOLIDUSbRIGHT SQUARE BRACKET
  bCIRCUMFLEX ACCENTbLOW LINEbGRAVE ACCENTbLATIN SMALL LETTER AeBeCeDeEeFeGeHeIeJeKeLeMeNeOePeQeReS
  eTeUeVeWeXeYeZbLEFT CURLY BRACKETbVERTICAL LINEbRIGHT CURLY BRACKETbTILDEbLEFT WHITE PARENTHESIS
  bcRIGHTaHALFWIDTH IDEOGRAPHIC FULL STOPbLEFT CORNER BRACKETbcRIGHTbIDEOGRAPHIC COMMA
  bKATAKANA MIDDLE DOTcLETTER WOdSMALL AeIeUeEeOeYAeYUeYOeTUbKATAKANA-HIRAGANA PROLONGED SOUND MARK
  bKATAKANA LETTER AdIdUdEdOdKAdKIdKUdKEdKOdSAdSIdSUdSEdSOdTAdTIdTUdTEdTOdNAdNIdNUdNEdNOdHAdHIdHUdHE
  dHOdMAdMIdMUdMEdMOdYAdYUdYOdRAdRIdRUdREdROdWAdNcVOICED SOUND MARKccSEMI-VOICEDbHANGUL FILLER
  cLETTER KIYEOKdSSANGKIYEOKdKIYEOK-SIOSdNIEUNdNIEUN-CIEUCdNIEUN-HIEUHdTIKEUTdSSANGTIKEUTdRIEUL
  dRIEUL-KIYEOKdRIEUL-MIEUMdRIEUL-PIEUPdRIEUL-SIOSdRIEUL-THIEUTHdRIEUL-PHIEUPHdRIEUL-HIEUHdMIEUM
  dPIEUPdSSANGPIEUPdPIEUP-SIOSdSIOSdSSANGSIOSdIEUNGdCIEUCdSSANGCIEUCdCHIEUCHdKHIEUKHdTHIEUTHdPHIEUPH
  dHIEUH+FFC2dAdAEdYAdYAEdEOdE+FFCAdYEOdYEdOdWAdWAEdOE+FFD2dYOdUdWEOdWEdWIdYU+FFDAdEUdYIdI
  +FFE0aFULLWIDTH CENT SIGNbbPOUNDbbNOTbMACRONbBROKEN BARbYEN SIGNbbWON
  +FFE8aHALFWIDTH FORMS LIGHT VERTICALbLEFTWARDS ARROWbbUPWARDSbbRIGHTWARDSbbDOWNWARDSbBLACK SQUARE
  bWHITE CIRCLE+FFF9aINTERLINEAR ANNOTATION ANCHORcSEPARATORcTERMINATORaOBJECT REPLACEMENT CHARACTER
  ac"

end RecordPattern.Text.CharName
